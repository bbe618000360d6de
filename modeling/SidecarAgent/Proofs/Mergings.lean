import Mathlib.Data.List.Basic
import SidecarAgent.Proofs.Difference
import SidecarAgent.Proofs.MergedView

/-!
# Single mergings

The merged entries of a view change in mergings, each of one key (`View.keyMerging`) or of all of
them (`View.fullMerging`).  A merging is sound when the events that it publishes lead from the
merged values before it to those after it, and every event names the owner that its change is due
to.  Both kinds are sound (`sound_keyMerging`, `sound_fullMerging`), so the events of any mergings
that follow on each other lead from their first merged values to their last (`Passes.leads`).
-/

namespace SidecarAgent.Config

universe u

variable {ι : Type u}

/-- The merged entries before and after a merging, and the events that it publishes. -/
structure Merging where
  before : KeyMap Owned
  after : KeyMap Owned
  events : List Event

/-- An event is attributed to the owner of its key: a deletion to the one before a merging, and any
other change to the one after it. -/
def Event.AttributedIn (e : Event) (m : Merging) : Prop :=
  match e.change with
  | .delete => (m.before.get? e.key).map Owned.source = some e.source
  | _ => (m.after.get? e.key).map Owned.source = some e.source

/-- The merged values before a merging. -/
def Merging.oldValues (m : Merging) : Snapshot := m.before.map Owned.value

/-- The merged values after a merging. -/
def Merging.newValues (m : Merging) : Snapshot := m.after.map Owned.value

/-- A merging is sound when its events are about different keys, lead from the values before it to
those after it, and are attributed to the owners of their keys. -/
structure Merging.Sound (m : Merging) : Prop where
  distinct : (m.events.map Event.key).Nodup
  leads : Leads m.oldValues m.events m.newValues
  attributed : ∀ e ∈ m.events, e.AttributedIn m

/-! ## Merging one key -/

namespace View

/-- The merging of one key. -/
def keyMerging (v : View ι) (key : String) : Merging :=
  ⟨v.merged, (v.remergeKey key).1.merged, (v.remergeKey key).2.toList⟩

/-- The event of a transition is about its key. -/
theorem key_of_transition? {key : String} {before after : Option Owned} {e : Event}
    (h : transition? key before after = some e) : e.key = key := by
  unfold transition? at h
  split at h
  · cases h
  · cases h
    rfl
  · cases h
    rfl
  · split at h
    · cases h
    · cases h
      rfl

/-- The change of a transition is that of its key's value. -/
theorem change_transition? (key : String) (before after : Option Owned) :
    (transition? key before after).map Event.change =
      Change.between? (before.map Owned.value) (after.map Owned.value) := by
  cases before with
  | none => cases after <;> rfl
  | some b =>
    cases after with
    | none => rfl
    | some a =>
      simp only [transition?, Option.map_some, Change.between?]
      split <;> rfl

/-- A transition is attributed to the owner that it is due to. -/
theorem attributed_transition? {key : String} {m : Merging} {e : Event}
    (h : transition? key (m.before.get? key) (m.after.get? key) = some e) : e.AttributedIn m := by
  unfold Event.AttributedIn
  rw [key_of_transition? h]
  unfold transition? at h
  split at h
  · cases h
  · rename_i b hb ha
    cases h
    rw [hb]
    rfl
  · rename_i a hb ha
    cases h
    rw [ha]
    rfl
  · rename_i b a hb ha
    split at h
    · cases h
    · cases h
      rw [ha]
      rfl

/-- The event of a merging of one key is the transition of that key. -/
theorem keyMerging_events (v : View ι) (key : String) :
    (v.keyMerging key).events =
      (transition? key ((v.keyMerging key).before.get? key)
        ((v.keyMerging key).after.get? key)).toList := by
  unfold keyMerging
  dsimp only
  rw [get?_remergeKey, if_pos rfl]
  rfl

/-- Away from its key a merging of one key changes nothing. -/
theorem keyMerging_other (v : View ι) {key k : String} (hk : k ≠ key) :
    (v.keyMerging key).after.get? k = (v.keyMerging key).before.get? k := by
  unfold keyMerging
  dsimp only
  rw [get?_remergeKey, if_neg hk]

/-- A merging of one key is sound. -/
theorem sound_keyMerging (v : View ι) (key : String) : (v.keyMerging key).Sound := by
  have hevents := keyMerging_events v key
  have hdistinct : ((v.keyMerging key).events.map Event.key).Nodup := by
    rw [hevents]
    cases transition? key _ _ <;> simp
  refine ⟨hdistinct, leads_of_between? hdistinct fun k c => ?_, ?_⟩
  · unfold Merging.oldValues Merging.newValues
    rw [KeyMap.get?_map, KeyMap.get?_map, hevents]
    by_cases hk : k = key
    · subst hk
      -- the only event there may be is the transition of this key
      rw [← change_transition?]
      constructor
      · rintro ⟨e, he, -, hchange⟩
        rw [Option.mem_toList] at he
        rw [he, ← hchange]
        rfl
      · intro h
        obtain ⟨e, he, hchange⟩ := Option.map_eq_some_iff.1 h
        exact ⟨e, Option.mem_toList.2 he, key_of_transition? he, hchange⟩
    · rw [keyMerging_other v hk, Change.between?_eq_none_iff.2 rfl]
      constructor
      · rintro ⟨e, he, hkey, -⟩
        rw [Option.mem_toList] at he
        exact absurd (hkey.symm.trans (key_of_transition? he)) hk
      · intro h
        cases h
  · intro e he
    rw [hevents, Option.mem_toList] at he
    exact attributed_transition? he

/-! ## Merging every key -/

/-- The merging of every key. -/
def fullMerging (v : View ι) : Merging := ⟨v.merged, v.remerge.1.merged, v.remerge.2⟩

/-- Every change between two sets of merged entries has an owner that it is due to. -/
theorem attribute?_of_mem_changes {before after : KeyMap Owned} {c : String × Change}
    (hc : c ∈ changes (before.map Owned.value) (after.map Owned.value)) :
    ∃ e, attribute? before after c = some e ∧ (e.key, e.change) = c := by
  obtain ⟨key, change⟩ := c
  rw [mem_changes_iff, KeyMap.get?_map, KeyMap.get?_map] at hc
  rcases Change.cases_of_between? hc with
    ⟨v, -, hafter, rfl⟩ | ⟨u, v, -, hafter, -, rfl⟩ | ⟨u, hbefore, -, rfl⟩
  · obtain ⟨a, ha, -⟩ := Option.map_eq_some_iff.1 hafter
    exact ⟨⟨a.source, key, .create v⟩, by simp [attribute?, ha], rfl⟩
  · obtain ⟨a, ha, -⟩ := Option.map_eq_some_iff.1 hafter
    exact ⟨⟨a.source, key, .update v⟩, by simp [attribute?, ha], rfl⟩
  · obtain ⟨b, hb, -⟩ := Option.map_eq_some_iff.1 hbefore
    exact ⟨⟨b.source, key, .delete⟩, by simp [attribute?, hb], rfl⟩

/-- The event of a change is attributed to the owner that it is due to. -/
theorem attributed_attribute? {m : Merging} {c : String × Change} {e : Event}
    (h : attribute? m.before m.after c = some e) : e.AttributedIn m := by
  unfold attribute? at h
  obtain ⟨o, ho, rfl⟩ := Option.map_eq_some_iff.1 h
  unfold Event.AttributedIn
  dsimp only
  cases hc : c.2 <;>
  · rw [hc] at ho
    dsimp only at ho ⊢
    rw [ho]
    rfl

/-- The events of a merging of every key are the changes between the merged values. -/
theorem fullMerging_events (v : View ι) :
    v.fullMerging.events.map (fun e => (e.key, e.change)) =
      changes v.fullMerging.oldValues v.fullMerging.newValues := by
  have hself : ∀ c ∈ changes v.fullMerging.oldValues v.fullMerging.newValues,
      (attribute? v.fullMerging.before v.fullMerging.after c).map
        (fun e => (e.key, e.change)) = some c := by
    intro c hc
    obtain ⟨e, he, heq⟩ := attribute?_of_mem_changes hc
    rw [he, Option.map_some, heq]
  calc v.fullMerging.events.map (fun e => (e.key, e.change))
    _ = (changes v.fullMerging.oldValues v.fullMerging.newValues).filterMap fun c =>
          (attribute? v.fullMerging.before v.fullMerging.after c).map
            fun e => (e.key, e.change) := List.map_filterMap
    _ = (changes v.fullMerging.oldValues v.fullMerging.newValues).filterMap some :=
        List.filterMap_congr hself
    _ = changes v.fullMerging.oldValues v.fullMerging.newValues := List.filterMap_some

/-- The merging of every key is sound. -/
theorem sound_fullMerging (v : View ι) : v.fullMerging.Sound := by
  refine ⟨keys_nodup_of_changes v.fullMerging_events, leads_of_changes v.fullMerging_events, ?_⟩
  intro e he
  obtain ⟨c, -, hc⟩ := List.mem_filterMap.1 he
  exact attributed_attribute? (m := v.fullMerging) hc

/-- Merging every key of a resolved view changes nothing and publishes nothing. -/
theorem remerge_of_resolved {v : View ι} (hv : v.Resolved) : v.remerge = (v, []) := by
  have hmerged : mergeAll v.sources = v.merged := by
    ext1 key
    rw [get?_mergeAll, hv key]
  unfold remerge
  rw [hmerged]
  show (v, (changes v.values v.values).filterMap _) = _
  rw [changes_self]
  rfl

end View

/-! ## Many mergings -/

/-- What one step of a view's merging comes to: the merging of one key, or of every key. -/
inductive View.Merges (ι : Type u) : Merging → Prop
  | one (v : View ι) (key : String) : View.Merges ι (v.keyMerging key)
  | every (v : View ι) : View.Merges ι v.fullMerging

/-- Every merging of a view is sound. -/
theorem View.Merges.sound {m : Merging} (h : View.Merges ι m) : m.Sound := by
  cases h with
  | one v key => exact v.sound_keyMerging key
  | every v => exact v.sound_fullMerging

/-- Merged entries pass from one state to another through mergings of views, each of which begins
where the one before it ended. -/
inductive Passes (ι : Type u) : KeyMap Owned → List Merging → KeyMap Owned → Prop
  | nil (m : KeyMap Owned) : Passes ι m [] m
  | cons {m : Merging} {ms : List Merging} {last : KeyMap Owned} (hmerges : View.Merges ι m)
      (hrest : Passes ι m.after ms last) : Passes ι m.before (m :: ms) last

namespace Passes

variable {first middle last : KeyMap Owned} {ms ns : List Merging}

/-- One merging passes from its beginning to its end. -/
theorem single {m : Merging} (hmerges : View.Merges ι m) : Passes ι m.before [m] m.after :=
  .cons hmerges (.nil _)

/-- Mergings that begin where others end come after them. -/
theorem append (hms : Passes ι first ms middle) (hns : Passes ι middle ns last) :
    Passes ι first (ms ++ ns) last := by
  induction hms with
  | nil => exact hns
  | cons hmerges _ ih => exact .cons hmerges (ih hns)

/-- Every merging on the way is sound. -/
theorem sound (h : Passes ι first ms last) : ∀ m ∈ ms, m.Sound := by
  induction h with
  | nil => simp
  | cons hmerges _ ih =>
    intro m hm
    rcases List.mem_cons.1 hm with rfl | hm
    · exact hmerges.sound
    · exact ih m hm

/-- What is published on the way leads from the first merged values to the last. -/
theorem leads (h : Passes ι first ms last) :
    Leads (first.map Owned.value) (ms.flatMap Merging.events) (last.map Owned.value) := by
  induction h with
  | nil => exact .nil _
  | cons hmerges _ ih => exact hmerges.sound.leads.append ih

end Passes

/-- The mergings of some keys, one after another. -/
def View.keyMergings (v : View ι) : List String → List Merging
  | [] => []
  | key :: rest => v.keyMerging key :: (v.remergeKey key).1.keyMergings rest

/-- Merging keys again passes through a merging of each. -/
theorem View.passes_keyMergings (v : View ι) (keys : List String) :
    Passes ι v.merged (v.keyMergings keys) (v.remergeKeys keys).1.merged := by
  induction keys generalizing v with
  | nil => exact .nil _
  | cons key rest ih => exact .cons (.one v key) (ih (v.remergeKey key).1)

/-- Merging keys again publishes what the merging of each publishes. -/
theorem View.events_keyMergings (v : View ι) (keys : List String) :
    (v.keyMergings keys).flatMap Merging.events = (v.remergeKeys keys).2 := by
  induction keys generalizing v with
  | nil => rfl
  | cons key rest ih =>
    unfold View.keyMergings
    rw [List.flatMap_cons, ih]
    rfl

end SidecarAgent.Config
