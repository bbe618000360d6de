import SidecarAgent.Tags

/-!
# Endpoint subsets

A subset is the part of a service that carries certain tags, with the instances in it.  An instance
stands for one endpoint of one cluster and carries the tags of its subset.
-/

namespace SidecarAgent.Endpoint

/-- An addressable instance of a service. -/
structure Instance where
  id : String
  host : String
  address : String
  protocol : String
  tags : Tags
  deriving DecidableEq, Repr

/-- The instances in one tagged part of a service. -/
structure Subset where
  name : String
  tags : Tags
  instances : List Instance
  deriving DecidableEq, Repr

/-- The protocol of instances that say nothing else. -/
def defaultProtocol : String := "rest"

/-- The id of an instance: its address, with an underscore for every colon. -/
def instanceId (address : String) : String :=
  String.ofList (address.toList.map fun c => if c = ':' then '_' else c)

/-- The instance at an address in a cluster. -/
def Instance.ofAddress (cluster address : String) (tags : Tags) : Instance where
  id := instanceId address
  host := cluster
  address := address
  protocol := defaultProtocol
  tags := tags

/-- The subset of a cluster with an instance at each of some addresses. -/
def Subset.ofAddresses (cluster name : String) (tags : Tags) (addresses : List String) :
    Subset where
  name := name
  tags := tags
  instances := addresses.map fun address => Instance.ofAddress cluster address tags

/-- A subset matches the tags that are all among its own. -/
def Subset.matchesTags (subset : Subset) (wanted : Tags) : Bool := Tags.includes subset.tags wanted

end SidecarAgent.Endpoint
