import SidecarAgent.Tags
import SidecarAgent.Discovery.Exchange
import SidecarAgent.Discovery.ResourceName

/-!
# Dialogues with the control plane

A dialogue is a computation that asks its surroundings questions, one after another: for the
resources of a type, and for the tags of a subset of a service.  How the questions are answered is
left open; the same dialogue can be run against a live connection, a script, or a list of answers.
-/

namespace SidecarAgent.Discovery

open Telemetry (Note)

/-- A subset of a service, as the control plane names it. -/
structure SubsetQuery where
  namespaceName : String
  service : String
  subset : String
  deriving DecidableEq, Repr

/-- A computation that asks for resources and for tags, and notes things on its way. -/
inductive Dialogue (α : Type) where
  | done (a : α)
  | note (n : Note) (next : Dialogue α)
  | discover (t : ResourceType) (names : List String)
      (next : Except DiscoveryError (List t.Resource) → Dialogue α)
  | lookup (query : SubsetQuery) (next : Option Tags → Dialogue α)

namespace Dialogue

variable {α β : Type}

/-- Continues a dialogue with another one. -/
def bind : Dialogue α → (α → Dialogue β) → Dialogue β
  | done a, f => f a
  | note n next, f => note n (next.bind f)
  | discover t names next, f => discover t names fun r => (next r).bind f
  | lookup q next, f => lookup q fun r => (next r).bind f

/-- Applies a function to the result of a dialogue. -/
def map (f : α → β) (d : Dialogue α) : Dialogue β := d.bind fun a => done (f a)

instance : Monad Dialogue where
  pure := done
  bind := bind

/-- Continues a dialogue where it succeeded. -/
def andThen {ε : Type} (d : Dialogue (Except ε α)) (f : α → Dialogue (Except ε β)) :
    Dialogue (Except ε β) :=
  d.bind fun
    | .ok a => f a
    | .error e => done (.error e)

/-- Asks for resources of a type, by name or all of them. -/
def ask (t : ResourceType) (names : List String) :
    Dialogue (Except DiscoveryError (List t.Resource)) :=
  discover t names done

/-! ## Questions -/

/-- The first resource that carries a name, or an empty one where there is none. -/
def findOrEmpty (name : α → String) (empty : String → α) (wanted : String)
    (resources : List α) : α :=
  (resources.find? fun r => name r = wanted).getD (empty wanted)

/-- Every cluster. -/
def listClusters : Dialogue (Except DiscoveryError (List Cluster)) := ask .cluster []

/-- Every listener. -/
def listListeners : Dialogue (Except DiscoveryError (List Listener)) := ask .listener []

/-- The endpoints of a cluster, none if the control plane knows none. -/
def listEndpoints (cluster : String) : Dialogue (Except DiscoveryError LoadAssignment) :=
  (ask .loadAssignment [cluster]).map fun r =>
    r.map (findOrEmpty LoadAssignment.cluster (fun n => ⟨n, []⟩) cluster)

/-- A route configuration by name, empty if the control plane knows none. -/
def listRoutes (name : String) : Dialogue (Except DiscoveryError RouteConfiguration) :=
  (ask .routeConfiguration [name]).map fun r =>
    r.map (findOrEmpty RouteConfiguration.name (fun n => ⟨n, []⟩) name)

/-- The tags of a subset. -/
def tagsForSubset (query : SubsetQuery) : Dialogue (Except DiscoveryError Tags) :=
  lookup query fun
    | some tags => done (.ok tags)
    | none => done (.error .subsetTags)

/-- The virtual hosts of a route configuration that serve a cluster: those named after its service
and port. -/
def hostsServing (name : ResourceName) (routes : RouteConfiguration) : List VirtualHost :=
  routes.virtualHosts.filter fun v => v.name = name.service ++ ":" ++ name.port

/-- The virtual hosts that route traffic for a cluster.  Route configurations carry the names of
their clusters; nothing is asked about a cluster that is not managed. -/
def virtualHosts (cluster : String) : Dialogue (Except DiscoveryError (List VirtualHost)) :=
  match ResourceName.parse? cluster with
  | none => done (.ok [])
  | some name => (listRoutes cluster).map fun r => r.map (hostsServing name)

/-- The clusters that the routes for a cluster point at. -/
def routeClusters (cluster : String) : Dialogue (Except DiscoveryError (List String)) :=
  (virtualHosts cluster).map fun r => r.map namedClusters

end Dialogue

end SidecarAgent.Discovery
