/-!
# Resource types

The four kinds of resource that a discovery server hands out.  Each has a short name, which labels
logs and metrics, and a type URL, which identifies it on the wire; both are injective
(`shortName_injective`, `ofTypeUrl?_typeUrl`).
-/

namespace SidecarAgent.Discovery

/-- A kind of discovered resource. -/
inductive ResourceType where
  | listener
  | routeConfiguration
  | cluster
  | loadAssignment
  deriving DecidableEq, Repr

namespace ResourceType

/-- Every resource type. -/
def all : List ResourceType := [listener, routeConfiguration, cluster, loadAssignment]

/-- The conventional name of the service that discovers a type. -/
def shortName : ResourceType → String
  | listener => "lds"
  | routeConfiguration => "rds"
  | cluster => "cds"
  | loadAssignment => "eds"

/-- The name of the message that carries a type. -/
def messageName : ResourceType → String
  | listener => "Listener"
  | routeConfiguration => "RouteConfiguration"
  | cluster => "Cluster"
  | loadAssignment => "ClusterLoadAssignment"

/-- The URL that identifies a type on the wire. -/
def typeUrl : ResourceType → String
  | listener => "type.googleapis.com/envoy.config.listener.v3.Listener"
  | routeConfiguration => "type.googleapis.com/envoy.config.route.v3.RouteConfiguration"
  | cluster => "type.googleapis.com/envoy.config.cluster.v3.Cluster"
  | loadAssignment => "type.googleapis.com/envoy.config.endpoint.v3.ClusterLoadAssignment"

/-- The type that a URL identifies. -/
def ofTypeUrl? (url : String) : Option ResourceType := all.find? fun t => t.typeUrl = url

/-- No type is left out. -/
theorem mem_all (t : ResourceType) : t ∈ all := by cases t <;> decide

/-- The URL of a type identifies it. -/
theorem ofTypeUrl?_typeUrl (t : ResourceType) : ofTypeUrl? t.typeUrl = some t := by
  cases t <;> decide

/-- No two types share a short name. -/
theorem shortName_injective {s t : ResourceType} (h : s.shortName = t.shortName) : s = t := by
  revert h; cases s <;> cases t <;> decide

end ResourceType

end SidecarAgent.Discovery
