import SidecarAgent.Wire.Schema
import SidecarAgent.Discovery.Resource

/-!
# Resources as messages

How resources of each type are written on the wire and read back.  A field that a message does not
have is skipped, and one of which nothing is kept is passed over.  Of a field that comes twice the
later value counts, but a part that is itself a message takes in the fields of both; where a message
holds one of several alternatives, a different alternative replaces the one before.
-/

namespace SidecarAgent.Discovery

open Wire

/-! ## Reading -/

/-- A field of a message of which nothing is kept: a type URL and a content. -/
def mergeExtension (_ : Unit) (f : Field) : Option Unit :=
  match f.number with
  | 1 => (textPayload? f.payload).map fun _ => ()
  | 2 =>
    match f.payload with
    | .block _ => some ()
    | _ => none
  | _ => some ()

/-- A field of a cluster's extension, of which the name is kept. -/
def mergeCustomKind (limit : Nat) (name : String) (f : Field) : Option String :=
  match f.number with
  | 1 => textPayload? f.payload
  | 2 => (partPayload? (limit - 1) mergeExtension () f.payload).map fun _ => name
  | _ => some name

/-- What else a socket address has. -/
def socketAddressSchema : Schema where
  numbers := [1, 6]
  texts := [5]

/-- A field of a socket address. -/
def mergeSocketAddress (limit : Nat) (a : SocketAddress) (f : Field) : Option SocketAddress :=
  match f.number with
  | 2 => (textPayload? f.payload).map fun s => { a with address := s }
  | 3 => (numberPayload? f.payload).map fun n => { a with port := some (.number (unsigned32 n)) }
  | 4 => (textPayload? f.payload).map fun s => { a with port := some (.named s) }
  | _ => socketAddressSchema.pass? limit a f

/-- A field of the address of a pipe. -/
def mergePipe (path : String) (f : Field) : Option String :=
  match f.number with
  | 1 => textPayload? f.payload
  | 2 => (numberPayload? f.payload).map fun _ => path
  | _ => some path

/-- A field of an address inside the proxy, of which nothing is kept. -/
def mergeInternal (_ : Unit) (f : Field) : Option Unit :=
  match f.number with
  | 1 | 2 => (textPayload? f.payload).map fun _ => ()
  | _ => some ()

/-- A field of an address. -/
def mergeAddress (limit : Nat) (a : Address) (f : Field) : Option Address :=
  match f.number with
  | 1 =>
    let before := match a with
      | .socket s => s
      | _ => ⟨"", none⟩
    (partPayload? (limit - 1) (mergeSocketAddress (limit - 1)) before f.payload).map .socket
  | 2 =>
    let before := match a with
      | .pipe path => path
      | _ => ""
    (partPayload? (limit - 1) mergePipe before f.payload).map .pipe
  | 3 => (partPayload? (limit - 1) mergeInternal () f.payload).map fun _ => .internal
  | _ => some a

/-- What else an endpoint has. -/
def endpointSchema : Schema where
  texts := [3]
  parts := [2, 4]

/-- A field of an endpoint. -/
def mergeEndpoint (limit : Nat) (a : Option Address) (f : Field) : Option (Option Address) :=
  match f.number with
  | 1 =>
    (partPayload? (limit - 1) (mergeAddress (limit - 1)) (a.getD .unset) f.payload).map some
  | _ => endpointSchema.pass? limit a f

/-- What else a weighted endpoint has. -/
def hostSchema : Schema where
  numbers := [2]
  parts := [3, 4]

/-- A field of a weighted endpoint. -/
def mergeHost (limit : Nat) (h : EndpointHost) (f : Field) : Option EndpointHost :=
  match f.number with
  | 1 =>
    let before := match h with
      | .endpoint a => a
      | _ => none
    (partPayload? (limit - 1) (mergeEndpoint (limit - 1)) before f.payload).map .endpoint
  | 5 => (textPayload? f.payload).map .named
  | _ => hostSchema.pass? limit h f

/-- What else a locality has. -/
def localitySchema : Schema where
  numbers := [5]
  parts := [1, 3, 6, 7, 8]

/-- A field of a locality. -/
def mergeLocality (limit : Nat) (hosts : List EndpointHost) (f : Field) :
    Option (List EndpointHost) :=
  match f.number with
  | 2 =>
    (partPayload? (limit - 1) (mergeHost (limit - 1)) .unset f.payload).map fun h => hosts ++ [h]
  | _ => localitySchema.pass? limit hosts f

/-- What else a load assignment has. -/
def assignmentSchema : Schema where
  parts := [4]

/-- A field of a load assignment. -/
def mergeAssignment (limit : Nat) (a : LoadAssignment) (f : Field) : Option LoadAssignment :=
  match f.number with
  | 1 => (textPayload? f.payload).map fun s => { a with cluster := s }
  | 2 =>
    (partPayload? (limit - 1) (mergeLocality (limit - 1)) [] f.payload).map fun l =>
      { a with localities := a.localities ++ [l] }
  | _ => assignmentSchema.pass? limit a f

/-- What a cluster says of where its endpoints are to be asked for. -/
def endpointSourceSchema : Schema where
  texts := [2]
  parts := [1]

/-- What else a cluster has. -/
def clusterSchema : Schema where
  numbers := [6, 17, 26, 31, 32, 39, 45, 47, 51]
  texts := [28]
  parts := [4, 5, 8, 9, 10, 13, 14, 16, 18, 19, 20, 21, 22, 23, 24, 25, 27, 29, 30, 34, 37, 40, 41,
    42, 43, 44, 46, 48, 49, 50, 52, 53, 54, 55, 56]

/-- A field of a cluster.  An assignment inside it is read, though nothing is kept of it. -/
def mergeCluster (limit : Nat) (c : Cluster) (f : Field) : Option Cluster :=
  match f.number with
  | 1 => (textPayload? f.payload).map fun s => { c with name := s }
  | 2 => (numberPayload? f.payload).map fun n => { c with kind := .numbered (signed32 n) }
  | 38 =>
    let before := match c.kind with
      | .custom name => name
      | _ => ""
    (partPayload? (limit - 1) (mergeCustomKind (limit - 1)) before f.payload).map fun s =>
      { c with kind := .custom s }
  | 3 => (endpointSourceSchema.passWithin? limit f.payload).map fun _ => c
  | 33 => (partPayload? (limit - 1) (mergeAssignment (limit - 1)) ⟨"", []⟩ f.payload).map fun _ => c
  | _ => clusterSchema.pass? limit c f

/-- What a choice among weighted clusters has. -/
def weightedClustersSchema : Schema where
  texts := [2, 4]
  parts := [1, 3]

/-- What a plugin that chooses a cluster has. -/
def pluginSchema : Schema where
  numbers := [2]
  parts := [1]

/-- What else a routing action has. -/
def routeActionSchema : Schema where
  numbers := [11, 20, 26, 38]
  texts := [5, 6, 29]
  parts := [4, 7, 8, 9, 13, 14, 15, 17, 23, 24, 25, 27, 28, 30, 31, 32, 33, 34, 35, 36, 40, 41]

/-- A field of a routing action. -/
def mergeRouteAction (limit : Nat) (t : RouteTarget) (f : Field) : Option RouteTarget :=
  match f.number with
  | 1 => (textPayload? f.payload).map .cluster
  | 2 => (textPayload? f.payload).map .clusterHeader
  | 3 => (weightedClustersSchema.passWithin? limit f.payload).map fun _ => .weightedClusters
  | 37 => (textPayload? f.payload).map fun _ => .plugin
  | 39 => (pluginSchema.passWithin? limit f.payload).map fun _ => .plugin
  | _ => routeActionSchema.pass? limit t f

/-- What a redirection has. -/
def redirectSchema : Schema where
  numbers := [3, 4, 6, 8]
  texts := [1, 2, 5, 7]
  parts := [9]

/-- What an answer that is given at once has. -/
def directAnswerSchema : Schema where
  numbers := [1]
  parts := [2]

/-- What an action of a filter has. -/
def filterActionSchema : Schema where
  parts := [1]

/-- What else a route has. -/
def routeSchema : Schema where
  texts := [11, 12, 14, 19]
  parts := [1, 4, 5, 9, 10, 15, 16]

/-- A field of a route. -/
def mergeRoute (limit : Nat) (t : RouteTarget) (f : Field) : Option RouteTarget :=
  match f.number with
  | 2 =>
    let before := match t with
      | .unset | .redirect | .answer => .unspecified
      | action => action
    partPayload? (limit - 1) (mergeRouteAction (limit - 1)) before f.payload
  | 3 => (redirectSchema.passWithin? limit f.payload).map fun _ => .redirect
  | 7 => (directAnswerSchema.passWithin? limit f.payload).map fun _ => .answer
  | 17 => (filterActionSchema.passWithin? limit f.payload).map fun _ => .answer
  | 18 => (passPart? limit f.payload).map fun _ => .answer
  | _ => routeSchema.pass? limit t f

/-- What else a virtual host has. -/
def virtualHostSchema : Schema where
  numbers := [4, 14, 19, 23]
  texts := [2, 11, 13]
  parts := [5, 6, 7, 8, 10, 16, 17, 18, 20, 21, 22]

/-- A field of a virtual host. -/
def mergeVirtualHost (limit : Nat) (v : VirtualHost) (f : Field) : Option VirtualHost :=
  match f.number with
  | 1 => (textPayload? f.payload).map fun s => { v with name := s }
  | 3 =>
    (partPayload? (limit - 1) (mergeRoute (limit - 1)) .unset f.payload).map fun t =>
      { v with routes := v.routes ++ [t] }
  | _ => virtualHostSchema.pass? limit v f

/-- What else a route configuration has. -/
def routeConfigurationSchema : Schema where
  numbers := [10, 14, 15]
  texts := [3, 5, 8]
  parts := [4, 6, 7, 9, 11, 12, 13]

/-- A field of a route configuration. -/
def mergeRouteConfiguration (limit : Nat) (r : RouteConfiguration) (f : Field) :
    Option RouteConfiguration :=
  match f.number with
  | 1 => (textPayload? f.payload).map fun s => { r with name := s }
  | 2 =>
    (partPayload? (limit - 1) (mergeVirtualHost (limit - 1)) ⟨"", []⟩ f.payload).map fun v =>
      { r with virtualHosts := r.virtualHosts ++ [v] }
  | _ => routeConfigurationSchema.pass? limit r f

/-- What else a listener has. -/
def listenerSchema : Schema where
  numbers := [8, 16, 17, 21, 30, 31]
  texts := [28]
  parts := [3, 4, 5, 6, 7, 9, 10, 11, 12, 13, 15, 18, 19, 20, 22, 24, 25, 26, 27, 29, 32, 33, 34]

/-- A field of a listener.  Its address is read, though nothing is kept of it. -/
def mergeListener (limit : Nat) (l : Listener) (f : Field) : Option Listener :=
  match f.number with
  | 1 => (textPayload? f.payload).map fun s => { l with name := s }
  | 2 => (partPayload? (limit - 1) (mergeAddress (limit - 1)) .unset f.payload).map fun _ => l
  | _ => listenerSchema.pass? limit l f

/-- Reads a resource of a type from its message. -/
def ResourceType.decode? : (t : ResourceType) → Bytes → Option t.Resource
  | .listener, bytes => message? nestingLimit (mergeListener nestingLimit) ⟨""⟩ bytes
  | .routeConfiguration, bytes =>
    message? nestingLimit (mergeRouteConfiguration nestingLimit) ⟨"", []⟩ bytes
  | .cluster, bytes => message? nestingLimit (mergeCluster nestingLimit) ⟨"", .unset⟩ bytes
  | .loadAssignment, bytes => message? nestingLimit (mergeAssignment nestingLimit) ⟨"", []⟩ bytes

/-! ## Writing -/

/-- The message of a cluster. -/
def Cluster.encode (c : Cluster) : Bytes :=
  textField 1 c.name ++
    match c.kind with
    | .unset => []
    | .numbered code => varintField 2 (unsigned64 code)
    | .custom name => blockField 38 (textField 1 name)

/-- The message of a socket address. -/
def SocketAddress.encode (a : SocketAddress) : Bytes :=
  textField 2 a.address ++
    match a.port with
    | none => []
    | some (.number n) => varintField 3 n
    | some (.named s) => blockField 4 (textBytes s)

/-- The message of an address. -/
def Address.encode : Address → Bytes
  | .unset => []
  | .socket a => blockField 1 a.encode
  | .pipe path => blockField 2 (textField 1 path)
  | .internal => blockField 3 []

/-- The message of a weighted endpoint. -/
def EndpointHost.encode : EndpointHost → Bytes
  | .unset => []
  | .endpoint none => blockField 1 []
  | .endpoint (some a) => blockField 1 (blockField 1 a.encode)
  | .named name => blockField 5 (textBytes name)

/-- The message of a load assignment. -/
def LoadAssignment.encode (a : LoadAssignment) : Bytes :=
  textField 1 a.cluster ++
    a.localities.flatMap fun l => blockField 2 (l.flatMap fun h => blockField 2 h.encode)

/-- The message of a route. -/
def RouteTarget.encode : RouteTarget → Bytes
  | .unset => []
  | .cluster name => blockField 2 (blockField 1 (textBytes name))
  | .clusterHeader header => blockField 2 (blockField 2 (textBytes header))
  | .weightedClusters => blockField 2 (blockField 3 [])
  | .unspecified => blockField 2 []
  | .redirect => blockField 3 []
  | .answer => blockField 7 []
  | .plugin => blockField 2 (blockField 39 [])

/-- The message of a virtual host. -/
def VirtualHost.encode (v : VirtualHost) : Bytes :=
  textField 1 v.name ++ v.routes.flatMap fun t => blockField 3 t.encode

/-- The message of a route configuration. -/
def RouteConfiguration.encode (r : RouteConfiguration) : Bytes :=
  textField 1 r.name ++ r.virtualHosts.flatMap fun v => blockField 2 v.encode

/-- The message of a listener. -/
def Listener.encode (l : Listener) : Bytes := textField 1 l.name

/-- The message of a resource. -/
def ResourceType.encode : (t : ResourceType) → t.Resource → Bytes
  | .listener, l => l.encode
  | .routeConfiguration, r => r.encode
  | .cluster, c => c.encode
  | .loadAssignment, a => a.encode

end SidecarAgent.Discovery
