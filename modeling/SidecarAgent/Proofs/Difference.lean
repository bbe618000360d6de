import SidecarAgent.Config.Diff
import SidecarAgent.Proofs.Replay

/-!
# What a difference is made of

`Change.between?` is the change that leads one key from what it has in one snapshot to what it has
in another.  The difference of two snapshots consists of exactly these changes (`mem_changes_iff`),
none of them on the key of another (`changes_keys_nodup`), so it leads from one snapshot to the
other (`leads_of_changes`).
-/

namespace SidecarAgent.Config

/-! ## The change of one key -/

/-- The change that leads a key from what it had to what it has, if that is a change. -/
def Change.between? (before after : Option Value) : Option Change :=
  match before, after with
  | none, none => none
  | none, some v => some (.create v)
  | some u, some v => if u = v then none else some (.update v)
  | some _, none => some .delete

namespace Change

variable {before after : Option Value} {c : Change}

/-- A key changes when what it has is different. -/
theorem between?_eq_none_iff : between? before after = none ↔ before = after := by
  cases before <;> cases after <;> simp [between?]

/-- A change is that of a key that comes to be, has something else, or goes. -/
theorem cases_of_between? (h : between? before after = some c) :
    (∃ v, before = none ∧ after = some v ∧ c = .create v) ∨
      (∃ u v, before = some u ∧ after = some v ∧ u ≠ v ∧ c = .update v) ∨
      ∃ u, before = some u ∧ after = none ∧ c = .delete := by
  cases before with
  | none =>
    cases after with
    | none => cases h
    | some v =>
      cases h
      exact .inl ⟨v, rfl, rfl, rfl⟩
  | some u =>
    cases after with
    | none =>
      cases h
      exact .inr (.inr ⟨u, rfl, rfl, rfl⟩)
    | some v =>
      rw [between?] at h
      split at h
      · cases h
      · rename_i hne
        cases h
        exact .inr (.inl ⟨u, v, rfl, rfl, hne, rfl⟩)

/-- The value of a change is what its key comes to have. -/
theorem value?_of_between? (h : between? before after = some c) : c.value? = after := by
  rcases cases_of_between? h with ⟨v, -, rfl, rfl⟩ | ⟨u, v, -, rfl, -, rfl⟩ | ⟨u, -, rfl, rfl⟩
  · rfl
  · rfl
  · rfl

/-- A key that comes to have a value is not deleted. -/
theorem ne_delete_of_between? {v : Value} (h : between? before (some v) = some c) :
    c ≠ .delete := by
  rintro rfl
  cases value?_of_between? h

/-- The change of a key is a real one. -/
theorem fits_of_between? {s : Snapshot} {e : Event}
    (h : between? (s.get? e.key) after = some e.change) : e.Fits s := by
  unfold Event.Fits
  rcases cases_of_between? h with ⟨v, hs, -, hc⟩ | ⟨u, v, hs, -, hne, hc⟩ | ⟨u, hs, -, hc⟩
  · rw [hc]
    exact hs
  · rw [hc]
    exact ⟨u, hs, hne⟩
  · rw [hc]
    exact ⟨u, hs⟩

end Change

/-! ## The changes between two snapshots -/

variable {old new : Snapshot}

/-- The change to a value that a key has is the change of the key. -/
theorem changeTo?_eq_between? (old : Snapshot) (k : String) (v : Value) :
    changeTo? old k v = Change.between? (old.get? k) (some v) := by
  unfold changeTo?
  cases old.get? k <;> rfl

/-- The settings are the changes of the keys that have something. -/
theorem mem_settings_iff {k : String} {c : Change} :
    (k, c) ∈ settings old new ↔
      ∃ v, new.get? k = some v ∧ Change.between? (old.get? k) (some v) = some c := by
  unfold settings
  rw [List.mem_filterMap]
  constructor
  · rintro ⟨⟨j, v⟩, hmem, hchange⟩
    rw [Option.map_eq_some_iff] at hchange
    obtain ⟨d, hd, heq⟩ := hchange
    rw [Prod.mk.injEq] at heq
    obtain ⟨rfl, rfl⟩ := heq
    exact ⟨v, (KeyMap.mem_entries_iff new j v).1 hmem, by rw [← changeTo?_eq_between?, hd]⟩
  · rintro ⟨v, hv, hchange⟩
    refine ⟨(k, v), (KeyMap.mem_entries_iff new k v).2 hv, ?_⟩
    rw [changeTo?_eq_between?, hchange]
    rfl

/-- The deletions are of the keys that are gone. -/
theorem mem_deletions_iff {k : String} {c : Change} :
    (k, c) ∈ deletions old new ↔ (∃ u, old.get? k = some u) ∧ new.get? k = none ∧ c = .delete := by
  unfold deletions
  rw [List.mem_map]
  constructor
  · rintro ⟨j, hj, heq⟩
    rw [Prod.mk.injEq] at heq
    obtain ⟨rfl, rfl⟩ := heq
    rw [List.mem_filter, KeyMap.mem_keys_iff, Option.isSome_iff_exists] at hj
    exact ⟨hj.1, by simpa [KeyMap.contains] using hj.2, rfl⟩
  · rintro ⟨hold, hnew, rfl⟩
    refine ⟨k, ?_, rfl⟩
    rw [List.mem_filter, KeyMap.mem_keys_iff, Option.isSome_iff_exists]
    exact ⟨hold, by simp [KeyMap.contains, hnew]⟩

/-- A setting is not a deletion. -/
theorem ne_delete_of_mem_settings {c : String × Change}
    (hc : c ∈ settings old new) : c.2 ≠ .delete := by
  obtain ⟨v, -, hchange⟩ := mem_settings_iff.1 hc
  exact Change.ne_delete_of_between? hchange

/-- A deletion is one. -/
theorem eq_delete_of_mem_deletions {c : String × Change}
    (hc : c ∈ deletions old new) : c.2 = .delete := (mem_deletions_iff.1 hc).2.2

/-- The changes between two snapshots are those of the single keys. -/
theorem mem_changes_iff {k : String} {c : Change} :
    (k, c) ∈ changes old new ↔ Change.between? (old.get? k) (new.get? k) = some c := by
  unfold changes
  rw [List.mem_append, mem_settings_iff, mem_deletions_iff]
  cases hnew : new.get? k with
  | none =>
    cases hold : old.get? k with
    | none => simp [Change.between?]
    | some u => simp [Change.between?, eq_comm]
  | some v => simp

/-- The settings are in the order of their keys. -/
theorem settings_keys_sublist (old new : Snapshot) :
    ((settings old new).map Prod.fst).Sublist new.keys := by
  unfold settings KeyMap.keys
  induction new.entries with
  | nil => exact .slnil
  | cons entry rest ih =>
    cases hchange : changeTo? old entry.1 entry.2 with
    | none => simpa [List.filterMap_cons, hchange] using ih.cons entry.1
    | some c => simpa [List.filterMap_cons, hchange] using ih.cons_cons entry.1

/-- The deletions are in the order of their keys. -/
theorem deletions_keys (old new : Snapshot) :
    (deletions old new).map Prod.fst = old.keys.filter fun k => !new.contains k := by
  unfold deletions
  rw [List.map_map]
  exact List.map_id _

/-- No key changes twice. -/
theorem changes_keys_nodup (old new : Snapshot) : ((changes old new).map Prod.fst).Nodup := by
  unfold changes
  rw [List.map_append, List.nodup_append]
  refine ⟨(settings_keys_sublist old new).nodup new.keys_nodup, ?_, ?_⟩
  · rw [deletions_keys]
    exact old.keys_nodup.sublist List.filter_sublist
  · -- a key that is set is in the new snapshot, and one that is deleted is not
    intro j hj k hk heq
    have hset : (new.get? j).isSome :=
      (KeyMap.mem_keys_iff new j).1 ((settings_keys_sublist old new).subset hj)
    rw [deletions_keys, List.mem_filter, ← heq] at hk
    have hgone : (new.get? j).isSome = false := by simpa [KeyMap.contains] using hk.2
    rw [hgone] at hset
    exact Bool.false_ne_true hset

/-- A snapshot does not differ from itself. -/
theorem changes_self (s : Snapshot) : changes s s = [] := by
  refine List.eq_nil_iff_forall_not_mem.2 fun c hc => ?_
  rw [mem_changes_iff, Change.between?_eq_none_iff.2 rfl] at hc
  cases hc

/-! ## Replaying a difference -/

/-- Events on different keys that are exactly the changes of the single keys lead from one snapshot
to the other. -/
theorem leads_of_between? {es : List Event} (hnodup : (es.map Event.key).Nodup)
    (hmem : ∀ k c, (∃ e ∈ es, e.key = k ∧ e.change = c) ↔
      Change.between? (old.get? k) (new.get? k) = some c) : Leads old es new := by
  have hchange : ∀ e ∈ es, Change.between? (old.get? e.key) (new.get? e.key) = some e.change :=
    fun e he => (hmem e.key e.change).1 ⟨e, he, rfl, rfl⟩
  refine leads_of_nodup hnodup ?_ ?_ ?_
  · exact fun e he => Change.fits_of_between? (hchange e he)
  · exact fun e he => Change.value?_of_between? (hchange e he)
  · intro k hne
    cases hk : Change.between? (old.get? k) (new.get? k) with
    | none => exact absurd (Change.between?_eq_none_iff.1 hk) hne
    | some c =>
      obtain ⟨e, he, hkey, -⟩ := (hmem k c).2 hk
      exact List.mem_map.2 ⟨e, he, hkey⟩

/-- The changes between two snapshots, attributed in any way, are about different keys. -/
theorem keys_nodup_of_changes {es : List Event}
    (h : es.map (fun e => (e.key, e.change)) = changes old new) : (es.map Event.key).Nodup := by
  have hkeys : es.map Event.key = (changes old new).map Prod.fst := by
    rw [← h, List.map_map]
    rfl
  rw [hkeys]
  exact changes_keys_nodup old new

/-- The changes between two snapshots, attributed in any way, lead from one to the other. -/
theorem leads_of_changes {es : List Event}
    (h : es.map (fun e => (e.key, e.change)) = changes old new) : Leads old es new := by
  refine leads_of_between? (keys_nodup_of_changes h) fun k c => ?_
  rw [← mem_changes_iff, ← h, List.mem_map]
  simp only [Prod.mk.injEq]

/-- The difference that a source reports is attributed to the source. -/
theorem source_of_mem_diff {source : String} {old new : Snapshot} {e : Event}
    (he : e ∈ diff source old new) : e.source = source := by
  obtain ⟨c, -, rfl⟩ := List.mem_map.1 he
  rfl

/-- The difference that a source reports leads from its old snapshot to its new one. -/
theorem leads_diff (source : String) (old new : Snapshot) :
    Leads old (diff source old new) new := by
  apply leads_of_changes
  unfold diff
  rw [List.map_map]
  exact List.map_id _

/-- The events of a difference are about different keys. -/
theorem diff_keys_nodup (source : String) (old new : Snapshot) :
    ((diff source old new).map Event.key).Nodup := by
  unfold diff
  rw [List.map_map]
  exact changes_keys_nodup old new

/-- A key that no event of a difference is about has the same in both snapshots. -/
theorem get?_eq_of_not_mem_diff {source : String} {old new : Snapshot} {key : String}
    (hkey : key ∉ (diff source old new).map Event.key) : old.get? key = new.get? key := by
  rw [← (leads_diff source old new).foldl_replay_eq, get?_foldl_replay_of_not_mem hkey]

/-- An event of a difference has no effect on the new snapshot any more. -/
theorem replay_eq_of_mem_diff {source : String} {old new : Snapshot} {e : Event}
    (he : e ∈ diff source old new) : e.replay new = new := by
  obtain ⟨⟨key, c⟩, hc, rfl⟩ := List.mem_map.1 he
  ext1 k
  rw [get?_replay]
  by_cases hk : k = key
  · rw [if_pos hk, hk]
    exact Change.value?_of_between? (mem_changes_iff.1 hc)
  · rw [if_neg hk]

/-! ## Many snapshots -/

/-- The differences between snapshots that follow on each other. -/
def differences (name : String) : Snapshot → List Snapshot → List Event
  | _, [] => []
  | old, new :: rest => diff name old new ++ differences name new rest

/-- One more snapshot makes a difference to the last one. -/
theorem differences_concat (name : String) (old : Snapshot)
    (news : List Snapshot) (new : Snapshot) :
    differences name old (news ++ [new]) =
      differences name old news ++ diff name (news.getLast?.getD old) new := by
  induction news generalizing old with
  | nil => exact List.append_nil _
  | cons first rest ih =>
    rw [List.cons_append, differences, differences, ih, List.getLast?_cons, List.append_assoc]
    rfl

end SidecarAgent.Config
