import Mathlib.Logic.Basic
import SidecarAgent.Discovery.Session
import SidecarAgent.Endpoint.Discovered

/-!
# What pulls of endpoint subsets result in

A dialogue always has results of some kind (`Dialogue.Always`) when it has them whatever it is
answered; then it has one of that kind with any answers (`Dialogue.Always.answered`).  A pull of
endpoint subsets always fails or results in a snapshot of subsets (`always_pull`).
-/

namespace SidecarAgent.Discovery

namespace Dialogue

variable {α β : Type}

/-- Whatever a dialogue is answered, its result has a property. -/
def Always (P : α → Prop) : Dialogue α → Prop
  | done a => P a
  | note _ next => next.Always P
  | discover _ _ next => ∀ r, (next r).Always P
  | lookup _ next => ∀ r, (next r).Always P

/-- What always holds of a result holds with any answers. -/
theorem Always.answered {P : α → Prop} {d : Dialogue α} (h : d.Always P) (node : Node)
    (answers : Answers) (cursors : Cursors) : P (d.answered node answers cursors).result := by
  induction d generalizing answers cursors with
  | done a => exact h
  | note n next ih => exact ih h answers cursors
  | discover t names next ih => exact ih _ (h _) _ _
  | lookup query next ih => exact ih _ (h _) _ _

/-- What always holds of results, and of what they are continued with, holds in the end. -/
theorem Always.bind {P : α → Prop} {Q : β → Prop} {d : Dialogue α} {f : α → Dialogue β}
    (hd : d.Always P) (hf : ∀ a, P a → (f a).Always Q) : (d.bind f).Always Q := by
  induction d with
  | done a => exact hf a hd
  | note n next ih => exact ih hd
  | discover t names next ih => exact fun r => ih r (hd r)
  | lookup query next ih => exact fun r => ih r (hd r)

/-- Of every result something trivial holds. -/
theorem always_true (d : Dialogue α) : d.Always fun _ => True := by
  induction d with
  | done a => trivial
  | note n next ih => exact ih
  | discover t names next ih => exact ih
  | lookup query next ih => exact ih

/-- A continued dialogue ends in what it is continued with, or in an error. -/
theorem always_andThen {ε : Type} {Q : Except ε β → Prop} {d : Dialogue (Except ε α)}
    {f : α → Dialogue (Except ε β)} (hf : ∀ a, (f a).Always Q) (herror : ∀ e, Q (.error e)) :
    (d.andThen f).Always Q := by
  refine d.always_true.bind fun r _ => ?_
  cases r with
  | ok a => exact hf a
  | error e => exact herror e

end Dialogue

end SidecarAgent.Discovery

namespace SidecarAgent.Endpoint

open Config (Snapshot Value)
open Discovery (Cluster DiscoveryError)

/-- A snapshot has subsets only. -/
def OnlySubsets (s : Snapshot) : Prop :=
  ∀ k v, s.get? k = some v → ∃ subset, v = .endpointSubset subset

/-- The empty snapshot has subsets only. -/
theorem onlySubsets_empty : OnlySubsets ∅ := by
  intro k v h
  cases h

/-- A snapshot of subsets with one more subset has subsets only. -/
theorem OnlySubsets.insert {s : Snapshot} (hs : OnlySubsets s) (key : String) {v : Value}
    (hv : ∃ subset, v = .endpointSubset subset) : OnlySubsets (s.insert key v) := by
  intro k u hu
  rw [KeyMap.get?_insert] at hu
  split at hu
  · cases hu
    exact hv
  · exact hs k u hu

/-- A snapshot of subsets that keeps something of another one has subsets only. -/
theorem OnlySubsets.keep {previous s : Snapshot} (hprevious : OnlySubsets previous)
    (hs : OnlySubsets s) (key : String) : OnlySubsets (keep previous key s) := by
  unfold Endpoint.keep
  split
  · rename_i v hv
    exact hs.insert key (hprevious key v hv)
  · exact hs

/-- A pull has gone well when it failed or resulted in subsets only. -/
def PulledSubsets (pulled : Except DiscoveryError Snapshot) : Prop :=
  ∀ s, pulled = .ok s → OnlySubsets s

/-- Pulling clusters adds subsets only.  The induction is on the clusters: each adds nothing, or
what the snapshot before had for it, or a new subset. -/
theorem always_pullClusters {previous s : Snapshot} (hprevious : OnlySubsets previous)
    (hs : OnlySubsets s) (clusters : List Cluster) :
    (pullClusters previous clusters s).Always PulledSubsets := by
  induction clusters generalizing s with
  | nil =>
    intro t ht
    cases ht
    exact hs
  | cons cluster rest ih =>
    unfold pullClusters
    split
    · exact ih hs
    · rename_i name _
      refine (Discovery.Dialogue.always_true _).bind fun tags _ => ?_
      cases tags with
      | error e => exact ih (hprevious.keep hs cluster.name)
      | ok tags =>
        refine Discovery.Dialogue.always_andThen (fun assignment => ?_) ?_
        · exact ih (hs.insert cluster.name ⟨_, rfl⟩)
        · intro e t ht
          cases ht

/-- A pull results in subsets only, if there were subsets only before. -/
theorem always_pull {previous : Snapshot} (hprevious : OnlySubsets previous) :
    (pull previous).Always PulledSubsets := by
  refine Discovery.Dialogue.always_andThen (fun clusters => ?_) ?_
  · exact always_pullClusters hprevious onlySubsets_empty clusters
  · intro e t ht
    cases ht

end SidecarAgent.Endpoint
