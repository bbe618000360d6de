import SidecarAgent.Config.KeyPattern
import SidecarAgent.Config.View
import SidecarAgent.Telemetry.Note

/-!
# The configuration manager

A manager merges configuration from every registered source and tells listeners what changed.  A key
belongs to the source with the lowest priority value that has it.  Changes by other sources are
remembered without being published, so that the next source in line takes over when the owner drops
the key.
-/

namespace SidecarAgent.Config

open Telemetry (Note)

universe u v

/-- The merged view of some sources, and who listens to it. -/
structure Manager (ι : Type u) (lis : Type v) where
  view : View ι := {}
  listeners : List (KeyPattern × lis) := []

/-- What a source answers when it is asked for its current state: the changes since it was last
asked, if it keeps track of them, or everything it has; or it fails. -/
inductive Answer where
  | changed (events : List Event)
  | everything (snapshot : Snapshot)
  | failed

/-- What of an answer has to wait until every source has answered. -/
def Answer.pulled (name : String) : Answer → List (String × Snapshot)
  | .everything snapshot => [(name, snapshot)]
  | .changed _ | .failed => []

namespace Manager

variable {ι : Type u} {lis : Type v}

/-- What an operation on a manager does: the manager after it, the events it hands to listeners, and
its notes. -/
structure Effect (ι : Type u) (lis : Type v) where
  manager : Manager ι lis
  deliveries : List (lis × Event)
  notes : List Note

/-- Hands events to the listeners that care about their keys: event by event, and each to its
listeners in the order of their registration. -/
def dispatch (m : Manager ι lis) (events : List Event) : List (lis × Event) :=
  events.flatMap fun e =>
    (m.listeners.filter fun l => l.1.accepts e.key).map fun l => (l.2, e)

/-- Registers a listener for the keys of a pattern. -/
def listen (m : Manager ι lis) (pattern : String) (listener : lis) : Manager ι lis :=
  { m with listeners := m.listeners ++ [(KeyPattern.parse pattern, listener)] }

/-- What is noted about a source that is added; one that could not be asked starts out empty. -/
def addNotes (name : String) (priority : Int) (pulled : Option Snapshot) : List Note :=
  let failure := match pulled with
    | some _ => []
    | none => [Note.warn "initial pull failed, starting empty" [("source", name)]]
  failure ++ [Note.info "adding source"
    [("source", name), ("priority", toString priority),
      ("keys", toString (pulled.getD ∅).size)]]

/-- Registers a source with the snapshot it was asked for, nothing if it failed to answer, and
publishes what that changes. -/
def addSource (m : Manager ι lis) (name : String) (priority : Int) (source : ι)
    (pulled : Option Snapshot) : Effect ι lis :=
  let (view, events) := m.view.register ⟨name, priority, source, pulled.getD ∅⟩
  let m := { m with view := view }
  ⟨m, m.dispatch events, addNotes name priority pulled⟩

/-- Enters a change that a source reports, and publishes what changes by it. -/
def apply (m : Manager ι lis) (e : Event) : Effect ι lis :=
  match m.view.enter? e with
  | none =>
    ⟨m, [], [Note.warn "event from an unknown source" [("source", e.source), ("key", e.key)]]⟩
  | some (view, published) =>
    let m := { m with view := view }
    ⟨m, m.dispatch published.toList, []⟩

/-- Enters changes one after another. -/
def applyAll (m : Manager ι lis) : List Event → Effect ι lis
  | [] => ⟨m, [], []⟩
  | e :: rest =>
    let first := m.apply e
    let later := first.manager.applyAll rest
    ⟨later.manager, first.deliveries ++ later.deliveries, first.notes ++ later.notes⟩

/-- Replaces what was pulled whole, merges again, and publishes what changed. -/
def replaceAll (m : Manager ι lis) (pulled : List (String × Snapshot)) : Effect ι lis :=
  let (view, events) := (m.view.replaceSnapshots pulled).remerge
  let m := { m with view := view }
  ⟨m, m.dispatch events, []⟩

/-- The note about a source that could not be refreshed. -/
def refreshFailed (name : String) : Note := Note.warn "failed to refresh source" [("source", name)]

/-- Enters the answer of one source: changes at once, and a failure as a note. -/
def enterAnswer (m : Manager ι lis) (name : String) : Answer → Effect ι lis
  | .changed events => m.applyAll events
  | .everything _ => ⟨m, [], []⟩
  | .failed => ⟨m, [], [refreshFailed name]⟩

/-- Enters the answers of some sources in order, each given with the source's name: reported changes
at once, everything else when all have answered. -/
def enterAnswers (m : Manager ι lis) (pulled : List (String × Snapshot)) :
    List (String × Answer) → Effect ι lis
  | [] => m.replaceAll pulled
  | (name, answer) :: rest =>
    let first := m.enterAnswer name answer
    let later := first.manager.enterAnswers (pulled ++ answer.pulled name) rest
    ⟨later.manager, first.deliveries ++ later.deliveries, first.notes ++ later.notes⟩

/-- Asks every source, in order, and publishes what changed; `answer` is what the sources answer, by
their place.  A source that fails keeps its last snapshot. -/
def refresh (m : Manager ι lis) (answer : Nat → Answer) : Effect ι lis :=
  m.enterAnswers [] (m.view.sources.mapIdx fun n r => (r.name, answer n))

end Manager

end SidecarAgent.Config
