import SidecarAgent.Discovery.ResourceType

/-!
# Discovered resources

What an agent looks at in the resources of each type: of a cluster, how its endpoints are found; of
a load assignment, the endpoints; of a route configuration, where each route leads; of a listener,
its name.
-/

namespace SidecarAgent.Discovery

/-- How a cluster's endpoints are found: unsaid, by a numbered method, or by an extension. -/
inductive ClusterKind where
  | unset
  | numbered (code : Int)
  | custom (name : String)
  deriving DecidableEq, Repr

/-- A group of endpoints that take the same traffic. -/
structure Cluster where
  name : String
  kind : ClusterKind
  deriving DecidableEq, Repr

/-- The number of the method by which traffic goes where the caller was already going. -/
def passThroughCode : Int := 4

/-- A pass-through cluster sends traffic where the caller was already going. -/
def Cluster.isPassThrough (cluster : Cluster) : Bool :=
  cluster.kind = .numbered passThroughCode

/-- The port of a socket address, by number or by name. -/
inductive PortSpecifier where
  | number (port : Nat)
  | named (port : String)
  deriving DecidableEq, Repr

/-- The address of a socket, possibly without a port. -/
structure SocketAddress where
  address : String
  port : Option PortSpecifier
  deriving DecidableEq, Repr

/-- Where an endpoint listens. -/
inductive Address where
  | unset
  | socket (address : SocketAddress)
  | pipe (path : String)
  | internal
  deriving DecidableEq, Repr

/-- How an endpoint is identified: not at all, by its address if it has one, or by a name. -/
inductive EndpointHost where
  | unset
  | endpoint (address : Option Address)
  | named (name : String)
  deriving DecidableEq, Repr

/-- The endpoints of a cluster, by locality. -/
structure LoadAssignment where
  cluster : String
  localities : List (List EndpointHost)
  deriving DecidableEq, Repr

/-- Where a route sends what it matches: to a cluster that is told in one way or another, or
elsewhere, or to no cluster because it is answered at once. -/
inductive RouteTarget where
  | unset
  | cluster (name : String)
  | clusterHeader (header : String)
  | weightedClusters
  | plugin
  | unspecified
  | redirect
  | answer
  deriving DecidableEq, Repr

/-- The routes for one group of hosts. -/
structure VirtualHost where
  name : String
  routes : List RouteTarget
  deriving DecidableEq, Repr

/-- A table of routes. -/
structure RouteConfiguration where
  name : String
  virtualHosts : List VirtualHost
  deriving DecidableEq, Repr

/-- A port that takes traffic. -/
structure Listener where
  name : String
  deriving DecidableEq, Repr

/-- The resources of a type. -/
abbrev ResourceType.Resource : ResourceType → Type
  | .listener => Listener
  | .routeConfiguration => RouteConfiguration
  | .cluster => Cluster
  | .loadAssignment => LoadAssignment

/-- The name under which a resource is requested. -/
def ResourceType.resourceName : (t : ResourceType) → t.Resource → String
  | .listener, l => l.name
  | .routeConfiguration, r => r.name
  | .cluster, c => c.name
  | .loadAssignment, a => a.cluster

/-! ## Routes -/

/-- The cluster that a route plainly names. -/
def RouteTarget.cluster? : RouteTarget → Option String
  | .cluster name => some name
  | _ => none

/-- The clusters that the routes of some virtual hosts plainly name, in order. -/
def namedClusters (hosts : List VirtualHost) : List String :=
  hosts.flatMap fun v => v.routes.filterMap RouteTarget.cluster?

/-! ## Addresses -/

/-- The number of a port, zero where it has none. -/
def SocketAddress.portNumber (a : SocketAddress) : Nat :=
  match a.port with
  | some (.number n) => n
  | _ => 0

/-- An address and its port number, as one text. -/
def SocketAddress.text (a : SocketAddress) : String := a.address ++ ":" ++ toString a.portNumber

/-- The socket address of an endpoint, if it is identified by one. -/
def EndpointHost.socketAddress? : EndpointHost → Option SocketAddress
  | .endpoint (some (.socket a)) => some a
  | _ => none

/-- The socket addresses of an assignment, by locality and then in order. -/
def LoadAssignment.socketAddresses (assignment : LoadAssignment) : List SocketAddress :=
  assignment.localities.flatten.filterMap EndpointHost.socketAddress?

/-- The written socket addresses of an assignment. -/
def LoadAssignment.addresses (assignment : LoadAssignment) : List String :=
  assignment.socketAddresses.map SocketAddress.text

end SidecarAgent.Discovery
