import SidecarAgent.Simulation.World

/-!
# Asking the control plane

A dialogue carried out in a rehearsal: its requests go to the control plane, which may take its
time, up to the time limit for a request; its look-ups of tags go to a table or to the cluster.
-/

namespace SidecarAgent.Simulation

open Discovery
open Telemetry (Note)

/-- A process in a rehearsal. -/
abbrev Act (α : Type) := Process World α

namespace Act

/-- Enters notes. -/
def enter (notes : List Note) : Act Unit := .modify fun w => w.enter notes

/-! ## Requests -/

/-- Has the control plane take a request. -/
def hand (request : Request) : Act (Option Outcome) := do
  let (controlPlane, answer) := (← .state).controlPlane.receive request
  .modify fun w => { w with controlPlane := controlPlane }
  return answer

/-- Hands a request over.  Where it stays without an answer, waits until the time is up; the timer
for that may be set already. -/
def answerOrTimeOut (request : Request) (deadline : Nat) (limit : Option Timer) : Act Outcome := do
  match ← hand request with
  | some outcome => return outcome
  | none =>
    let t ← match limit with
      | some t => pure t
      | none => .setTimer deadline
    .waitFor [t]
    return .timedOut (← .state).timeout

/-- Sends a request, and waits for its outcome.  An answer that comes just when the time is up still
counts. -/
def fetch (request : Request) : Act Outcome := do
  let w ← .state
  let start ← .now
  let deadline := start + w.timeout.ceilMillis
  if w.controlPlane.delay = 0 then answerOrTimeOut request deadline none
  else
    let arrival ← .setTimer (start + w.controlPlane.delay)
    let limit ← .setTimer deadline
    .waitFor [arrival, limit]
    if arrival.deadline ≤ (← .now) then answerOrTimeOut request deadline (some limit)
    else return .timedOut w.timeout

/-- Asks for resources: sends a request, notes how it ended, and moves the cursor. -/
def discover (t : ResourceType) (names : List String) :
    Act (Except DiscoveryError (List t.Resource)) := do
  enter (sendNotes t)
  let w ← .state
  let outcome ← fetch (Request.make w.cursors w.node t names)
  let result := outcome.resources t t.decode?
  enter (receiveNotes t result.isOk)
  .modify fun w => { w with cursors := outcome.advance t t.decode? w.cursors }
  return result

/-! ## Tags -/

/-- The tags of a subset in a table; an entry that is not there has none. -/
def tableTags (table : List (SubsetQuery × Tags)) (query : SubsetQuery) : Tags :=
  ((table.find? fun e => e.1 = query).map Prod.snd).getD ∅

/-- Lists the rules of the cluster, and looks the tags of a subset up in them. -/
def clusterTags (query : SubsetQuery) : Act (Option Tags) := do
  match Kubernetes.listPath? query.namespaceName with
  | none => return none
  | some path =>
    .giveWay
    .modify fun w => { w with clusterCalls := w.clusterCalls ++ [path] }
    return (← .state).cluster.labels? query

/-- Looks the tags of a subset up. -/
def lookup (query : SubsetQuery) : Act (Option Tags) := do
  let w ← .state
  match w.tagging with
  | .none => return some ∅
  | .table => return if w.tagsFailing then none else some (tableTags w.tagTable query)
  | .rules => clusterTags query

/-! ## Dialogues -/

/-- Carries a dialogue out. -/
def carryOut {α : Type} : Dialogue α → Act α
  | .done a => .done a
  | .note n next => .bind (enter [n]) fun _ => carryOut next
  | .discover t names next => .bind (discover t names) fun r => carryOut (next r)
  | .lookup query next => .bind (lookup query) fun r => carryOut (next r)

end Act

end SidecarAgent.Simulation
