import SidecarAgent.Discovery.Exchange

/-!
# A control plane to rehearse with

A control plane that serves whatever resources it was given.  Every response for a type bumps the
type's counter, which is its version and its nonce.  It can be told to answer late, to fail, to give
certain answers first, or not to answer at all, and it remembers what it was asked.
-/

namespace SidecarAgent.Simulation

open Discovery

/-- A control plane: what it serves and how it behaves. -/
structure ControlPlane where
  clusters : List Cluster := []
  assignments : List LoadAssignment := []
  routes : List RouteConfiguration := []
  listeners : List Listener := []
  served : ResourceType → Nat := fun _ => 0
  script : List (Option Outcome) := []
  requests : List Request := []
  failing : List ResourceType := []
  stalled : Bool := false
  delay : Nat := 0

namespace ControlPlane

/-- The status of a type that is told to fail. -/
def failure : Status := { code := .unavailable }

/-- The resources that a request gets: all clusters and listeners, and what it names of the rest. -/
def selected (cp : ControlPlane) (names : List String) : (t : ResourceType) → List t.Resource
  | .listener => cp.listeners
  | .cluster => cp.clusters
  | .routeConfiguration =>
    cp.routes.filter fun r => names.isEmpty || names.contains r.name
  | .loadAssignment =>
    cp.assignments.filter fun a => names.isEmpty || names.contains a.cluster

/-- A resource as it goes over the wire. -/
def pack (t : ResourceType) (r : t.Resource) : PackedResource := ⟨t.typeUrl, t.encode r⟩

/-- Serves a request from the current resources. -/
def serve (cp : ControlPlane) (request : Request) : ControlPlane × Outcome :=
  let t := request.type
  let count := cp.served t + 1
  let response : Response :=
    { version := toString count
      nonce := toString count
      typeUrl := t.typeUrl
      resources := (cp.selected request.names t).map (pack t) }
  ({ cp with served := fun u => if u = t then count else cp.served u }, .answered response)

/-- Takes a request, and answers it unless it is told not to. -/
def receive (cp : ControlPlane) (request : Request) : ControlPlane × Option Outcome :=
  let cp := { cp with requests := cp.requests ++ [request] }
  if cp.stalled then (cp, none)
  else
    match cp.script with
    | answer :: rest => ({ cp with script := rest }, answer)
    | [] =>
      if cp.failing.contains request.type then (cp, some (.failed failure))
      else
        let (cp, outcome) := cp.serve request
        (cp, some outcome)

/-- Puts an assignment behind the others, in place of one for the same cluster. -/
def setAssignment (cp : ControlPlane) (a : LoadAssignment) : ControlPlane :=
  { cp with assignments := (cp.assignments.filter fun b => b.cluster ≠ a.cluster) ++ [a] }

/-- Drops the assignment for a cluster. -/
def removeAssignment (cp : ControlPlane) (cluster : String) : ControlPlane :=
  { cp with assignments := cp.assignments.filter fun b => b.cluster ≠ cluster }

/-- Tells whether requests for a type fail. -/
def setFailing (cp : ControlPlane) (t : ResourceType) (on : Bool) : ControlPlane :=
  let others := cp.failing.filter fun u => u ≠ t
  { cp with failing := if on then t :: others else others }

end ControlPlane

end SidecarAgent.Simulation
