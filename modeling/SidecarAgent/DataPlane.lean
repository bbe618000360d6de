import SidecarAgent.Egress.Cache
import SidecarAgent.Endpoint.Cache

/-!
# The data plane

Whoever proxies requests reads published routing data here.  A look-up never waits: it gives the
last published data, however old, and where that has nothing it asks for a refresh.
-/

namespace SidecarAgent.DataPlane

/-- What a look-up comes to: its result, and the signal to send when something was missing. -/
structure Answer (α : Type) where
  result : α
  missing : Option String

/-- The egress rule for a host.  A host without a rule is asked for. -/
def matchEgress (egress : Egress.Cache) (host : String) : Answer (Option Egress.Rule) :=
  match egress.match? host with
  | some rule => ⟨some rule, none⟩
  | none => ⟨none, some host⟩

/-- The instances of a service that carry some tags.  A service without such a subset is asked
for. -/
def instancesWithTags (endpoints : Endpoint.Cache) (service : String) (tags : Tags) :
    Answer (List Endpoint.Instance) :=
  match endpoints.instances? service tags with
  | some instances => ⟨instances, none⟩
  | none => ⟨[], some service⟩

end SidecarAgent.DataPlane
