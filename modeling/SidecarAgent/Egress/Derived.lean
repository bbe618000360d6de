import SidecarAgent.Config.Value
import SidecarAgent.Discovery.Dialogue
import SidecarAgent.Text.Integer

/-!
# Egress rules from the control plane

Every outbound pass-through cluster allows plain HTTP to its host on its port.  All of these
rules are published together, under one key.
-/

namespace SidecarAgent.Egress

open Config (Snapshot)
open Discovery (Cluster DiscoveryError Dialogue ResourceName)

/-- The key of the derived rules. -/
def derivedKey : String := "pilotEgress"

/-- The name of the source of derived rules. -/
def derivedSourceName : String := "EgressPilotSource"

/-- The priority of the source of derived rules. -/
def derivedSourcePriority : Int := 8

/-- The protocol of derived rules. -/
def derivedProtocol : String := "http"

/-- The rule that a cluster stands for, if it stands for one. -/
def derivedRule? (cluster : Cluster) : Option Rule :=
  if cluster.isPassThrough then
    match ResourceName.parse? cluster.name with
    | some name =>
      if name.direction = .outbound then
        (Text.int32? name.port).map fun port => ⟨[name.fqdn], [⟨port, derivedProtocol⟩]⟩
      else none
    | none => none
  else none

/-- The rules that some clusters stand for. -/
def derivedRules (clusters : List Cluster) : List Rule := clusters.filterMap derivedRule?

/-- The snapshot of derived rules. -/
def derivedSnapshot (clusters : List Cluster) : Snapshot :=
  (∅ : Snapshot).insert derivedKey (.egressRules (derivedRules clusters))

/-- Asks for the clusters and derives the rules. -/
def pull : Dialogue (Except DiscoveryError Snapshot) :=
  Dialogue.listClusters.map fun r => r.map derivedSnapshot

end SidecarAgent.Egress
