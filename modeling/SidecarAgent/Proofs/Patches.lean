import Mathlib.Data.List.Perm.Subperm
import SidecarAgent.Proofs.Difference

/-!
# Differences as patches

The changes between two snapshots are a patch: applied one after another they turn the one into the
other (`patch_changes`).  Every patch that does so has a change for each key on which the snapshots
differ (`keys_changes_subset`), and the difference has just one for each of them, so that none is
shorter.  The way back changes the same keys (`kind_between?_swap`).
-/

namespace SidecarAgent.Config

/-! ## Applying changes -/

/-- A snapshot after changes of its keys, one after another. -/
def patch (s : Snapshot) (cs : List (String × Change)) : Snapshot :=
  cs.foldl (fun s c => c.2.apply c.1 id s) s

/-- Changes are applied as the events that report them are replayed. -/
theorem foldl_replay_map (source : String) (s : Snapshot) (cs : List (String × Change)) :
    (cs.map fun c => ⟨source, c.1, c.2⟩).foldl Event.replay s = patch s cs := by
  rw [List.foldl_map]
  rfl

/-- The changes between two snapshots turn the one into the other. -/
theorem patch_changes (old new : Snapshot) : patch old (changes old new) = new := by
  rw [← foldl_replay_map ""]
  exact (leads_diff "" old new).foldl_replay_eq

/-- A patch leaves a key alone for which it has no change. -/
theorem get?_patch_of_not_mem {cs : List (String × Change)} {key : String}
    (hkey : key ∉ cs.map Prod.fst) (s : Snapshot) : (patch s cs).get? key = s.get? key := by
  rw [← foldl_replay_map ""]
  refine get?_foldl_replay_of_not_mem ?_ s
  rw [List.map_map]
  exact hkey

/-! ## The keys of a difference -/

variable {old new : Snapshot}

/-- The changes between two snapshots are about the keys on which they differ. -/
theorem mem_keys_changes_iff {key : String} :
    key ∈ (changes old new).map Prod.fst ↔ old.get? key ≠ new.get? key := by
  rw [List.mem_map, ne_eq, ← Change.between?_eq_none_iff, ← ne_eq, Option.ne_none_iff_exists']
  constructor
  · rintro ⟨⟨k, c⟩, hc, rfl⟩
    exact ⟨c, mem_changes_iff.1 hc⟩
  · rintro ⟨c, hc⟩
    exact ⟨(key, c), mem_changes_iff.2 hc, rfl⟩

/-- A patch from one snapshot to another has a change for every key of their difference. -/
theorem keys_changes_subset {cs : List (String × Change)} (hcs : patch old cs = new) :
    (changes old new).map Prod.fst ⊆ cs.map Prod.fst := by
  intro key hkey
  by_contra habsent
  have hsame := get?_patch_of_not_mem habsent old
  rw [hcs] at hsame
  exact mem_keys_changes_iff.1 hkey hsame.symm

/-- No patch from one snapshot to another is shorter than their difference. -/
theorem length_changes_le {cs : List (String × Change)} (hcs : patch old cs = new) :
    (changes old new).length ≤ cs.length := by
  have hle := (List.subperm_of_subset (changes_keys_nodup old new)
    (keys_changes_subset hcs)).length_le
  rwa [List.length_map, List.length_map] at hle

/-- Settings come in the order of their keys. -/
theorem settings_keys_pairwise_lt (old new : Snapshot) :
    ((settings old new).map Prod.fst).Pairwise (· < ·) :=
  new.keys_pairwise_lt.sublist (settings_keys_sublist old new)

/-- Deletions come in the order of their keys. -/
theorem deletions_keys_pairwise_lt (old new : Snapshot) :
    ((deletions old new).map Prod.fst).Pairwise (· < ·) := by
  rw [deletions_keys]
  exact old.keys_pairwise_lt.sublist List.filter_sublist

/-- There are no changes between two snapshots when they are the same. -/
theorem changes_eq_nil_iff : changes old new = [] ↔ old = new := by
  constructor
  · intro hnone
    rw [← patch_changes old new, hnone]
    rfl
  · rintro rfl
    exact changes_self old

/-! ## The way back -/

/-- The kind of change that takes a change of some kind back. -/
def ChangeKind.reversed : ChangeKind → ChangeKind
  | create => delete
  | update => update
  | delete => create

/-- The way back takes the change of a key back. -/
theorem kind_between?_swap (before after : Option Value) :
    (Change.between? after before).map Change.kind =
      ((Change.between? before after).map Change.kind).map ChangeKind.reversed := by
  cases before with
  | none => cases after <;> rfl
  | some u =>
    cases after with
    | none => rfl
    | some v =>
      by_cases huv : u = v
      · simp [Change.between?, huv]
      · simp [Change.between?, huv, Ne.symm huv, Change.kind, ChangeKind.reversed]

/-- A kind of change that is taken back twice is the same again. -/
theorem ChangeKind.reversed_reversed (k : ChangeKind) : k.reversed.reversed = k := by
  cases k <;> rfl

/-- The kind of the change of a key. -/
theorem exists_mem_changes_iff {key : String} {kind : ChangeKind} :
    (∃ c, (key, c) ∈ changes old new ∧ c.kind = kind) ↔
      (Change.between? (old.get? key) (new.get? key)).map Change.kind = some kind := by
  rw [Option.map_eq_some_iff]
  exact exists_congr fun c => and_congr_left fun _ => mem_changes_iff

/-- Where there is a change of some kind, there is one of the reversed kind on the way back. -/
theorem exists_mem_changes_swap_iff {key : String} {kind : ChangeKind} :
    (∃ c, (key, c) ∈ changes new old ∧ c.kind = kind) ↔
      ∃ c, (key, c) ∈ changes old new ∧ c.kind = kind.reversed := by
  rw [exists_mem_changes_iff, exists_mem_changes_iff, kind_between?_swap]
  cases (Change.between? (old.get? key) (new.get? key)).map Change.kind with
  | none => simp
  | some k =>
    rw [Option.map_some, Option.some.injEq, Option.some.injEq]
    constructor
    · rintro rfl
      exact k.reversed_reversed.symm
    · rintro rfl
      exact kind.reversed_reversed

/-- The changes between two snapshots are a patch from the one to the other, and there is none that
is shorter or leaves out one of its keys.  Each key on which the snapshots differ has one change,
which is that from what it has in the one to what it has in the other.  Creations and updates come
first and deletions after them, both in the order of their keys.  There are no changes when the
snapshots are the same, and the way back has the reversed changes of the same keys. -/
theorem changes_smallest_patch (old new : Snapshot) :
    patch old (changes old new) = new ∧
    (∀ cs, patch old cs = new → (changes old new).map Prod.fst ⊆ cs.map Prod.fst ∧
      (changes old new).length ≤ cs.length) ∧
    ((changes old new).map Prod.fst).Nodup ∧
    (∀ key, key ∈ (changes old new).map Prod.fst ↔ old.get? key ≠ new.get? key) ∧
    (∀ key c, (key, c) ∈ changes old new ↔
      (∃ v, old.get? key = none ∧ new.get? key = some v ∧ c = .create v) ∨
      (∃ u v, old.get? key = some u ∧ new.get? key = some v ∧ u ≠ v ∧ c = .update v) ∨
      ∃ u, old.get? key = some u ∧ new.get? key = none ∧ c = .delete) ∧
    (∃ sets gone, changes old new = sets ++ gone ∧
      (∀ c ∈ sets, c.2 ≠ .delete) ∧ (∀ c ∈ gone, c.2 = .delete) ∧
      (sets.map Prod.fst).Pairwise (· < ·) ∧ (gone.map Prod.fst).Pairwise (· < ·)) ∧
    (changes old new = [] ↔ old = new) ∧
    ∀ key kind, (∃ c, (key, c) ∈ changes new old ∧ c.kind = kind) ↔
      ∃ c, (key, c) ∈ changes old new ∧ c.kind = kind.reversed := by
  refine ⟨patch_changes old new, fun cs hcs => ⟨keys_changes_subset hcs, length_changes_le hcs⟩,
    changes_keys_nodup old new, fun key => mem_keys_changes_iff, fun key c => ?_, ?_,
    changes_eq_nil_iff, fun key kind => exists_mem_changes_swap_iff⟩
  · rw [mem_changes_iff]
    constructor
    · exact Change.cases_of_between?
    · rintro (⟨v, hold, hnew, rfl⟩ | ⟨u, v, hold, hnew, hne, rfl⟩ | ⟨u, hold, hnew, rfl⟩)
      · rw [hold, hnew]
        rfl
      · rw [hold, hnew, Change.between?, if_neg hne]
      · rw [hold, hnew]
        rfl
  · exact ⟨settings old new, deletions old new, rfl, fun c => ne_delete_of_mem_settings,
      fun c => eq_delete_of_mem_deletions, settings_keys_pairwise_lt old new,
      deletions_keys_pairwise_lt old new⟩

/-- The deletion comes last, although its key is the first of all. -/
example :
    changes (KeyMap.ofList [("a", .raw [1]), ("b", .raw [2])])
        (KeyMap.ofList [("b", .raw [3]), ("c", .raw [4])]) =
      [("b", .update (.raw [3])), ("c", .create (.raw [4])), ("a", .delete)] := by
  decide

end SidecarAgent.Config
