import Mathlib.Data.Int.Order.Basic
import Mathlib.Data.List.Basic
import Mathlib.Data.List.TakeWhile
import SidecarAgent.Config.View

/-!
# The merged view

A view is resolved when its merged entries give every key what `resolve` finds: the value of the
first source that has the key.  Both ways of merging establish this, `remerge` for every key at once
(`resolved_remerge`) and `remergeKey` for the one key whose snapshots may have changed
(`resolved_remergeKey`).  Sources are kept sorted by priority, in the order of their registration
among equals (`sorted_insertSource`, `filter_priority_insertSource`).
-/

namespace SidecarAgent.Config

universe u

variable {ι : Type u}

/-- What a source is registered with, apart from its snapshot. -/
structure Registration (ι : Type u) where
  name : String
  priority : ℤ
  source : ι

/-- The registration of a source. -/
def Registered.registration (r : Registered ι) : Registration ι := ⟨r.name, r.priority, r.source⟩

namespace View

/-! ## The first source that has a key -/

/-- What the first of some sources has counts before what the others have. -/
theorem resolve_cons (r : Registered ι) (rest : List (Registered ι)) (key : String) :
    resolve (r :: rest) key = (Registered.owned? r key).or (resolve rest key) := by
  unfold resolve
  rw [List.findSome?_cons]
  cases Registered.owned? r key <;> rfl

/-- What earlier sources have counts before what later ones have. -/
theorem resolve_append (before after : List (Registered ι)) (key : String) :
    resolve (before ++ after) key = (resolve before key).or (resolve after key) :=
  List.findSome?_append

/-- A source has nothing under a key when its snapshot does not. -/
theorem owned?_eq_none_iff {r : Registered ι} {key : String} :
    Registered.owned? r key = none ↔ r.snapshot.get? key = none := by
  unfold Registered.owned?
  exact Option.map_eq_none_iff

/-- No source is found when none has the key. -/
theorem resolve_eq_none_iff {sources : List (Registered ι)} {key : String} :
    resolve sources key = none ↔ ∀ r ∈ sources, r.snapshot.get? key = none := by
  unfold resolve
  rw [List.findSome?_eq_none_iff]
  exact forall₂_congr fun r _ => owned?_eq_none_iff

/-- What is found belongs to the first source that has the key. -/
theorem resolve_eq_some_iff {sources : List (Registered ι)} {key : String} {o : Owned} :
    resolve sources key = some o ↔
      ∃ before r after, sources = before ++ r :: after ∧
        (∀ s ∈ before, s.snapshot.get? key = none) ∧
        r.snapshot.get? key = some o.value ∧ r.name = o.source := by
  have howned : ∀ r : Registered ι, Registered.owned? r key = some o ↔
      r.snapshot.get? key = some o.value ∧ r.name = o.source := by
    intro r
    unfold Registered.owned?
    rw [Option.map_eq_some_iff]
    constructor
    · rintro ⟨v, hv, rfl⟩
      exact ⟨hv, rfl⟩
    · rintro ⟨hv, hname⟩
      exact ⟨o.value, hv, by rw [hname]⟩
  unfold resolve
  rw [List.findSome?_eq_some_iff]
  constructor
  · rintro ⟨before, r, after, hsplit, hr, hbefore⟩
    exact ⟨before, r, after, hsplit, fun s hs => owned?_eq_none_iff.1 (hbefore s hs),
      (howned r).1 hr⟩
  · rintro ⟨before, r, after, hsplit, hbefore, hr⟩
    exact ⟨before, r, after, hsplit, (howned r).2 hr,
      fun s hs => owned?_eq_none_iff.2 (hbefore s hs)⟩

/-! ## Merging -/

/-- A view is resolved when every merged entry is what the first source with its key has. -/
def Resolved (v : View ι) : Prop := ∀ key, v.merged.get? key = resolve v.sources key

/-- Resolved views with the same sources are the same. -/
theorem Resolved.eq_of_sources_eq {v w : View ι} (hv : v.Resolved) (hw : w.Resolved)
    (hsources : v.sources = w.sources) : v = w := by
  have hmerged : v.merged = w.merged := by
    ext1 key
    rw [hv key, hw key, hsources]
  exact congrArg₂ View.mk hsources hmerged

/-- A set entry is what it was set to, and any other entry what it was. -/
theorem get?_setOwned (m : KeyMap Owned) (key : String) (o : Option Owned) (k : String) :
    (setOwned m key o).get? k = if k = key then o else m.get? k := by
  cases o with
  | none => exact KeyMap.get?_erase m key k
  | some o => exact KeyMap.get?_insert m key k o

/-- Merging a key again leaves the sources as they are. -/
@[simp] theorem remergeKey_sources (v : View ι) (key : String) :
    (v.remergeKey key).1.sources = v.sources := rfl

/-- Merging a key again resolves that key and no other. -/
theorem get?_remergeKey (v : View ι) (key k : String) :
    (v.remergeKey key).1.merged.get? k =
      if k = key then resolve v.sources key else v.merged.get? k :=
  get?_setOwned v.merged key (resolve v.sources key) k

/-- Merging a key again is enough where every other key is resolved. -/
theorem resolved_remergeKey {v : View ι} {key : String}
    (hothers : ∀ k, k ≠ key → v.merged.get? k = resolve v.sources k) :
    (v.remergeKey key).1.Resolved := by
  intro k
  rw [get?_remergeKey, remergeKey_sources]
  by_cases hk : k = key
  · rw [if_pos hk, hk]
  · rw [if_neg hk, hothers k hk]

/-- Merging keys again leaves the sources as they are. -/
@[simp] theorem remergeKeys_sources (v : View ι) (keys : List String) :
    (v.remergeKeys keys).1.sources = v.sources := by
  induction keys generalizing v with
  | nil => rfl
  | cons key rest ih => exact ih (v.remergeKey key).1

/-- Merging keys again is enough where every other key is resolved. -/
theorem resolved_remergeKeys {v : View ι} {keys : List String}
    (hothers : ∀ k, k ∉ keys → v.merged.get? k = resolve v.sources k) :
    (v.remergeKeys keys).1.Resolved := by
  induction keys generalizing v with
  | nil => exact fun k => hothers k (by simp)
  | cons key rest ih =>
    refine ih (v := (v.remergeKey key).1) fun k hk => ?_
    rw [get?_remergeKey, remergeKey_sources]
    by_cases heq : k = key
    · rw [if_pos heq, heq]
    · rw [if_neg heq]
      exact hothers k (by simp [heq, hk])

/-- Merging different keys again publishes the transition of each. -/
theorem events_remergeKeys (v : View ι) {keys : List String} (hdistinct : keys.Nodup) :
    (v.remergeKeys keys).2 = keys.filterMap fun k =>
      transition? k (v.merged.get? k) (resolve v.sources k) := by
  induction keys generalizing v with
  | nil => rfl
  | cons key rest ih =>
    rw [List.nodup_cons] at hdistinct
    -- the first key is none of the others, which are still as they were when it is merged
    have hothers : rest.filterMap (fun k => transition? k ((v.remergeKey key).1.merged.get? k)
        (resolve (v.remergeKey key).1.sources k)) =
        rest.filterMap fun k => transition? k (v.merged.get? k) (resolve v.sources k) := by
      refine List.filterMap_congr fun k hk => ?_
      have hne : k ≠ key := fun heq => hdistinct.1 (heq ▸ hk)
      rw [get?_remergeKey, if_neg hne, remergeKey_sources]
    show (v.remergeKey key).2.toList ++ ((v.remergeKey key).1.remergeKeys rest).2 = _
    rw [ih (v.remergeKey key).1 hdistinct.2, hothers, List.filterMap_cons]
    show (transition? key (v.merged.get? key) (resolve v.sources key)).toList ++ _ = _
    cases transition? key (v.merged.get? key) (resolve v.sources key) <;> rfl

/-- What is added of a source is what it has where there was nothing. -/
theorem get?_addMissing (m : KeyMap Owned) (r : Registered ι) (key : String) :
    (addMissing m r).get? key = (m.get? key).or (Registered.owned? r key) := by
  -- the map that the fold starts from changes on the way, so it is any map here
  have hfold : ∀ (entries : List (String × Value)) (m : KeyMap Owned),
      (entries.foldl (fun m e => if m.contains e.1 then m else m.insert e.1 ⟨r.name, e.2⟩)
        m).get? key =
      (m.get? key).or ((KeyMap.lookup key entries).map fun v => ⟨r.name, v⟩) := by
    intro entries
    induction entries with
    | nil => exact fun m => Option.or_none.symm
    | cons e rest ih =>
      intro m
      rw [List.foldl_cons, ih, KeyMap.lookup]
      by_cases hk : e.1 = key
      · subst hk
        cases hm : m.get? e.1 with
        | none => simp [KeyMap.contains, hm]
        | some o => simp [KeyMap.contains, hm]
      · cases hm : m.contains e.1 with
        | false => simp [hk, Ne.symm hk]
        | true => simp [hk]
  exact hfold r.snapshot.entries m

/-- The merged entries of some sources are what `resolve` finds in them. -/
theorem get?_mergeAll (sources : List (Registered ι)) (key : String) :
    (mergeAll sources).get? key = resolve sources key := by
  have hfold : ∀ m : KeyMap Owned,
      (sources.foldl addMissing m).get? key = (m.get? key).or (resolve sources key) := by
    induction sources with
    | nil => exact fun m => Option.or_none.symm
    | cons r rest ih =>
      intro m
      rw [List.foldl_cons, ih, get?_addMissing, resolve_cons, Option.or_assoc]
  unfold mergeAll
  rw [hfold, KeyMap.get?_emptyCollection, Option.none_or]

/-- Merging everything again resolves a view, whatever was merged before. -/
theorem resolved_remerge (v : View ι) : v.remerge.1.Resolved := get?_mergeAll v.sources

/-- The merged value of a key. -/
theorem get?_values (v : View ι) (key : String) : v.values.get? key = v.get? key :=
  KeyMap.get?_map Owned.value v.merged key

/-! ## Changing snapshots -/

/-- A change that touches no snapshot under a key does not change what is found there. -/
theorem resolve_modifyFirst (name : String) (f : Registered ι → Registered ι) {key : String}
    (hf : ∀ r, Registered.owned? (f r) key = Registered.owned? r key)
    (sources : List (Registered ι)) :
    resolve (modifyFirst name f sources) key = resolve sources key := by
  induction sources with
  | nil => rfl
  | cons r rest ih =>
    unfold modifyFirst
    split
    · rw [resolve_cons, resolve_cons, hf]
    · rw [resolve_cons, resolve_cons, ih]

/-- Changing a snapshot under some keys does not change what is found under any other. -/
theorem resolve_modifySnapshot (v : View ι) (name : String) {f : Snapshot → Snapshot} {key : String}
    (hf : ∀ s, (f s).get? key = s.get? key) :
    resolve (v.modifySnapshot name f).sources key = resolve v.sources key := by
  refine resolve_modifyFirst name _ (fun r => ?_) v.sources
  unfold Registered.owned?
  rw [hf]

/-- A source changes nothing where it has nothing. -/
theorem resolve_insertSource {r : Registered ι} {key : String}
    (habsent : r.snapshot.get? key = none)
    (sources : List (Registered ι)) :
    resolve (insertSource r sources) key = resolve sources key := by
  unfold insertSource
  rw [resolve_append, resolve_cons, owned?_eq_none_iff.2 habsent, Option.none_or, ← resolve_append,
    List.takeWhile_append_dropWhile]

/-- Registering a source keeps a view resolved. -/
theorem resolved_register {v : View ι} (hv : v.Resolved) (r : Registered ι) :
    (v.register r).1.Resolved := by
  refine resolved_remergeKeys fun k hk => ?_
  have habsent : r.snapshot.get? k = none := by
    rw [KeyMap.mem_keys_iff, Bool.not_eq_true, Option.isSome_eq_false_iff] at hk
    exact Option.isNone_iff_eq_none.1 hk
  exact (hv k).trans (resolve_insertSource habsent v.sources).symm

/-! ## The order of the sources -/

/-- Sources are sorted when none stands behind one of a greater priority value. -/
def Sorted (sources : List (Registered ι)) : Prop :=
  sources.Pairwise fun r s => r.priority ≤ s.priority

/-- Behind the sources that go before a priority, all have greater ones. -/
theorem lt_priority_of_mem_dropWhile {sources : List (Registered ι)} (hsorted : Sorted sources)
    {p : ℤ} {s : Registered ι} (hs : s ∈ sources.dropWhile fun r => r.priority ≤ p) :
    p < s.priority := by
  induction sources with
  | nil => simp at hs
  | cons r rest ih =>
    unfold Sorted at hsorted
    rw [List.pairwise_cons] at hsorted
    rw [List.dropWhile_cons] at hs
    split at hs
    · exact ih hsorted.2 hs
    · rename_i hr
      have hlt : p < r.priority := by simpa using hr
      rcases List.mem_cons.1 hs with rfl | hs
      · exact hlt
      · exact lt_of_lt_of_le hlt (hsorted.1 s hs)

/-- Inserting a source keeps the sources sorted. -/
theorem sorted_insertSource {sources : List (Registered ι)} (hsorted : Sorted sources)
    (r : Registered ι) : Sorted (insertSource r sources) := by
  -- the two parts are sorted, and nothing in the first goes behind anything in the second
  have hparts : Sorted (sources.takeWhile (fun s => s.priority ≤ r.priority) ++
      sources.dropWhile fun s => s.priority ≤ r.priority) := by
    rw [List.takeWhile_append_dropWhile]
    exact hsorted
  unfold Sorted at hparts
  rw [List.pairwise_append] at hparts
  obtain ⟨hbefore, hafter, hacross⟩ := hparts
  unfold Sorted insertSource
  rw [List.pairwise_append, List.pairwise_cons]
  refine ⟨hbefore, ⟨fun s hs => ?_, hafter⟩, fun s hs t ht => ?_⟩
  · exact le_of_lt (lt_priority_of_mem_dropWhile hsorted hs)
  · rcases List.mem_cons.1 ht with rfl | ht
    · simpa using List.mem_takeWhile_imp hs
    · exact hacross s hs t ht

/-- Among the sources of its priority an inserted source is the last. -/
theorem filter_priority_insertSource {sources : List (Registered ι)} (hsorted : Sorted sources)
    (r : Registered ι) (p : ℤ) :
    (insertSource r sources).filter (fun s => s.priority = p) =
      sources.filter (fun s => s.priority = p) ++ [r].filter fun s => s.priority = p := by
  have hparts : sources.filter (fun s => s.priority = p) =
      (sources.takeWhile fun s => s.priority ≤ r.priority).filter (fun s => s.priority = p) ++
        (sources.dropWhile fun s => s.priority ≤ r.priority).filter fun s => s.priority = p := by
    rw [← List.filter_append, List.takeWhile_append_dropWhile]
  unfold insertSource
  rw [List.filter_append, List.filter_cons, hparts]
  by_cases hp : r.priority = p
  · -- behind `r` every priority is greater, so that `r` comes last among its equals
    have hnone : (sources.dropWhile fun s => s.priority ≤ r.priority).filter
        (fun s => s.priority = p) = [] := by
      rw [List.filter_eq_nil_iff]
      intro s hs
      have hlt := lt_priority_of_mem_dropWhile hsorted hs
      rw [decide_eq_true_eq]
      omega
    rw [hnone]
    simp [hp]
  · simp [hp]

/-- Changing a snapshot changes no registration. -/
theorem registrations_modifySnapshot (v : View ι) (name : String) (f : Snapshot → Snapshot) :
    (v.modifySnapshot name f).sources.map Registered.registration =
      v.sources.map Registered.registration := by
  unfold modifySnapshot
  dsimp only
  induction v.sources with
  | nil => rfl
  | cons r rest ih =>
    unfold modifyFirst
    split
    · rfl
    · rw [List.map_cons, List.map_cons, ih]

/-- Replacing snapshots changes no registration. -/
theorem registrations_replaceSnapshots (v : View ι) (pulled : List (String × Snapshot)) :
    (v.replaceSnapshots pulled).sources.map Registered.registration =
      v.sources.map Registered.registration := by
  unfold replaceSnapshots
  induction pulled generalizing v with
  | nil => rfl
  | cons p rest ih => rw [List.foldl_cons, ih, registrations_modifySnapshot]

end View

end SidecarAgent.Config
