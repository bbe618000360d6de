/-!
# Maps with text keys

`KeyMap α` is a finite map from text to `α` whose entries stand in increasing key order, so that
walking a map, printing it and comparing two maps all follow that one order.  Text is ordered by
code points, which is also the order of its UTF-8 bytes.

The view is `get?`: `get?_insert` and `get?_erase` say what the two updates do to it, and `ext` says
that a map holds nothing beyond it.
-/

namespace SidecarAgent

universe u v

/-! ## Sorted entry lists -/

namespace KeyMap

variable {α : Type u} {β : Type v}

/-- The value under `key` in an entry list, the first one if there are several. -/
def lookup (key : String) : List (String × α) → Option α
  | [] => none
  | (k, a) :: rest => if k = key then some a else lookup key rest

/-- Puts `a` under `key`, before the first greater key and in place of an equal one. -/
def put (key : String) (a : α) : List (String × α) → List (String × α)
  | [] => [(key, a)]
  | (k, b) :: rest =>
    if key < k then (key, a) :: (k, b) :: rest
    else if key = k then (key, a) :: rest
    else (k, b) :: put key a rest

/-- Drops every entry under `key`. -/
def remove (key : String) : List (String × α) → List (String × α)
  | [] => []
  | (k, a) :: rest => if k = key then remove key rest else (k, a) :: remove key rest

/-- An entry list is ordered when its keys strictly increase. -/
def Ordered (entries : List (String × α)) : Prop :=
  (entries.map Prod.fst).Pairwise (· < ·)

/-- The empty list is in order. -/
theorem ordered_nil : Ordered ([] : List (String × α)) := List.Pairwise.nil

/-- A list is in order when its first key is below all others and the rest is in order. -/
theorem ordered_cons {e : String × α} {rest : List (String × α)} :
    Ordered (e :: rest) ↔ (∀ x ∈ rest, e.1 < x.1) ∧ Ordered rest := by
  simp [Ordered]

/-- A key below every key of a list is not in it. -/
theorem lookup_eq_none_of_lt {key : String} {entries : List (String × α)}
    (h : ∀ x ∈ entries, key < x.1) : lookup key entries = none := by
  induction entries with
  | nil => rfl
  | cons e rest ih =>
    have he : e.1 ≠ key := fun heq => String.lt_irrefl key (heq ▸ h e (by simp))
    simp only [lookup, if_neg he]
    exact ih fun x hx => h x (by simp [hx])

/-- What is in a list after an entry was put there is the entry, or was there before. -/
theorem mem_put {key : String} {a : α} {x : String × α} {entries : List (String × α)}
    (h : x ∈ put key a entries) : x = (key, a) ∨ x ∈ entries := by
  induction entries with
  | nil => exact .inl (by simpa [put] using h)
  | cons e rest ih =>
    simp only [put] at h
    split at h
    · rcases List.mem_cons.1 h with h | h
      · exact .inl h
      · exact .inr h
    · split at h
      · rcases List.mem_cons.1 h with h | h
        · exact .inl h
        · exact .inr (by simp [h])
      · rcases List.mem_cons.1 h with h | h
        · exact .inr (by simp [h])
        · exact (ih h).imp_right fun h => by simp [h]

/-- Putting an entry keeps the order. -/
theorem ordered_put {key : String} {a : α} {entries : List (String × α)}
    (h : Ordered entries) : Ordered (put key a entries) := by
  induction entries with
  | nil => simp [put, Ordered]
  | cons e rest ih =>
    obtain ⟨hlt, hrest⟩ := ordered_cons.1 h
    simp only [put]
    split
    · rename_i hk
      refine ordered_cons.2 ⟨fun x hx => ?_, h⟩
      rcases List.mem_cons.1 hx with rfl | hx
      · exact hk
      · exact String.lt_trans hk (hlt x hx)
    · split
      · rename_i hk
        subst hk
        exact ordered_cons.2 ⟨hlt, hrest⟩
      · rename_i hge hne
        refine ordered_cons.2 ⟨fun x hx => ?_, ih hrest⟩
        rcases mem_put hx with rfl | hx
        · exact String.not_le.1 fun hle => hne (String.le_antisymm hle (String.not_lt.1 hge))
        · exact hlt x hx

/-- After an entry was put, its key gives it, and any other key what it gave before. -/
theorem lookup_put (key k : String) (a : α) {entries : List (String × α)}
    (h : Ordered entries) :
    lookup k (put key a entries) = if k = key then some a else lookup k entries := by
  induction entries with
  | nil => simp [put, lookup, eq_comm]
  | cons e rest ih =>
    obtain ⟨hlt, hrest⟩ := ordered_cons.1 h
    simp only [put]
    split
    · simp [lookup, eq_comm]
    · split
      · rename_i hk
        by_cases hkk : k = key
        · simp [lookup, hkk]
        · simp [lookup, hkk, Ne.symm hkk, ← hk]
      · rename_i hne
        by_cases hkk : e.1 = k
        · have : k ≠ key := fun h => hne (by rw [← h, hkk])
          simp [lookup, hkk, this]
        · simp [lookup, hkk, ih hrest]

/-- A filtered list stays in order. -/
theorem ordered_filter {p : String × α → Bool} {entries : List (String × α)}
    (h : Ordered entries) : Ordered (entries.filter p) :=
  List.Pairwise.sublist (List.Sublist.map Prod.fst List.filter_sublist) h

/-- Changing values keeps the order. -/
theorem ordered_map (f : String → α → β) {entries : List (String × α)} (h : Ordered entries) :
    Ordered (entries.map fun e => (e.1, f e.1 e.2)) := by
  simpa [Ordered, List.map_map, Function.comp_def] using h

/-- What is left after a key was removed was there before, in the same order. -/
theorem remove_sublist (key : String) (entries : List (String × α)) :
    (remove key entries).Sublist entries := by
  induction entries with
  | nil => exact .slnil
  | cons e rest ih =>
    by_cases he : e.1 = key
    · simpa [remove, he] using ih.cons e
    · simpa [remove, he] using ih.cons_cons e

/-- Removing a key keeps the order. -/
theorem ordered_remove (key : String) {entries : List (String × α)} (h : Ordered entries) :
    Ordered (remove key entries) :=
  List.Pairwise.sublist ((remove_sublist key entries).map Prod.fst) h

/-- After a key was removed it gives nothing, and any other key what it gave before. -/
theorem lookup_remove (key k : String) (entries : List (String × α)) :
    lookup k (remove key entries) = if k = key then none else lookup k entries := by
  induction entries with
  | nil => simp [remove, lookup]
  | cons e rest ih =>
    by_cases he : e.1 = key <;> by_cases hk : k = key <;> by_cases hek : e.1 = k <;>
      simp_all [remove, lookup]

/-- In an ordered list the entries are exactly what `lookup` finds. -/
theorem mem_iff_lookup {entries : List (String × α)} (h : Ordered entries) (k : String) (a : α) :
    (k, a) ∈ entries ↔ lookup k entries = some a := by
  induction entries with
  | nil => simp [lookup]
  | cons e rest ih =>
    obtain ⟨hlt, hrest⟩ := ordered_cons.1 h
    by_cases he : e.1 = k
    · subst he
      constructor
      · intro hm
        rcases List.mem_cons.1 hm with hm | hm
        · rw [← hm]
          simp [lookup]
        · exact absurd (hlt _ hm) (String.lt_irrefl _)
      · intro hl
        simp only [lookup, if_true, Option.some.injEq] at hl
        exact List.mem_cons.2 (.inl (by rw [← hl]))
    · have hne : (k, a) ≠ e := fun heq => he (by rw [← heq])
      rw [List.mem_cons, ih hrest]
      simp [lookup, he, hne]

/-- Ordered lists with the same look-ups are equal. -/
theorem eq_of_lookup_eq {l m : List (String × α)} (hl : Ordered l) (hm : Ordered m)
    (h : ∀ k, lookup k l = lookup k m) : l = m := by
  induction l generalizing m with
  | nil =>
    cases m with
    | nil => rfl
    | cons f m => have := h f.1; simp [lookup] at this
  | cons e l ih =>
    cases m with
    | nil => have := h e.1; simp [lookup] at this
    | cons f m =>
      obtain ⟨hle, hl'⟩ := ordered_cons.1 hl
      obtain ⟨hmf, hm'⟩ := ordered_cons.1 hm
      have hkey : e.1 = f.1 := by
        have hef : (e.1, e.2) ∈ f :: m := (mem_iff_lookup hm e.1 e.2).2 (by
          rw [← h]; simp [lookup])
        have hfe : (f.1, f.2) ∈ e :: l := (mem_iff_lookup hl f.1 f.2).2 (by
          rw [h]; simp [lookup])
        rcases List.mem_cons.1 hef with hef | hef
        · rw [← hef]
        · rcases List.mem_cons.1 hfe with hfe | hfe
          · rw [← hfe]
          · exact absurd (hle _ hfe) (String.lt_asymm (hmf _ hef))
      have hval : e.2 = f.2 := by
        have := h e.1
        simpa [lookup, hkey] using this
      have hef : e = f := Prod.ext hkey hval
      subst hef
      congr 1
      refine ih hl' hm' fun k => ?_
      by_cases hk : e.1 = k
      · subst hk
        rw [lookup_eq_none_of_lt hle, lookup_eq_none_of_lt hmf]
      · simpa [lookup, hk] using h k

end KeyMap

/-! ## The maps -/

/-- A finite map from text to `α`, as a list of entries in increasing key order. -/
structure KeyMap (α : Type u) where
  entries : List (String × α)
  ordered : KeyMap.Ordered entries

namespace KeyMap

variable {α : Type u} {β : Type v}

instance [DecidableEq α] : DecidableEq (KeyMap α) := fun m n =>
  decidable_of_iff (m.entries = n.entries)
    ⟨fun h => by cases m; cases n; simp_all, fun h => h ▸ rfl⟩

instance [Repr α] : Repr (KeyMap α) := ⟨fun m n => reprPrec m.entries n⟩

/-- The map without entries. -/
def empty : KeyMap α := ⟨[], ordered_nil⟩

instance : EmptyCollection (KeyMap α) := ⟨empty⟩

instance : Inhabited (KeyMap α) := ⟨empty⟩

/-- The value under a key. -/
def get? (m : KeyMap α) (key : String) : Option α := lookup key m.entries

/-- A key belongs to a map when it has a value there. -/
def contains (m : KeyMap α) (key : String) : Bool := (m.get? key).isSome

/-- Sets the value under a key. -/
def insert (m : KeyMap α) (key : String) (a : α) : KeyMap α :=
  ⟨put key a m.entries, ordered_put m.ordered⟩

/-- Removes a key. -/
def erase (m : KeyMap α) (key : String) : KeyMap α :=
  ⟨remove key m.entries, ordered_remove key m.ordered⟩

/-- The map of a list of entries, of which a later one overrides an earlier one. -/
def ofList (entries : List (String × α)) : KeyMap α :=
  entries.foldl (fun m e => m.insert e.1 e.2) empty

/-- The keys, in increasing order. -/
def keys (m : KeyMap α) : List String := m.entries.map Prod.fst

/-- The values, in key order. -/
def values (m : KeyMap α) : List α := m.entries.map Prod.snd

/-- The number of keys. -/
def size (m : KeyMap α) : Nat := m.entries.length

/-- A map is empty when it has no key. -/
def isEmpty (m : KeyMap α) : Bool := m.entries.isEmpty

/-- Applies a function to every value. -/
def map (f : α → β) (m : KeyMap α) : KeyMap β :=
  ⟨m.entries.map fun e => (e.1, f e.2), ordered_map (fun _ => f) m.ordered⟩

/-- Keeps the entries that pass a test. -/
def filter (p : String → α → Bool) (m : KeyMap α) : KeyMap α :=
  ⟨m.entries.filter fun e => p e.1 e.2, ordered_filter m.ordered⟩

/-! ## The view -/

/-- The empty map has no key. -/
@[simp] theorem get?_empty (key : String) : (empty : KeyMap α).get? key = none := rfl

/-- The empty map has no key. -/
@[simp] theorem get?_emptyCollection (key : String) : (∅ : KeyMap α).get? key = none := rfl

/-- An inserted key has its new value, and any other key what it had. -/
@[simp] theorem get?_insert (m : KeyMap α) (key k : String) (a : α) :
    (m.insert key a).get? k = if k = key then some a else m.get? k :=
  lookup_put key k a m.ordered

/-- An erased key has nothing, and any other key what it had. -/
@[simp] theorem get?_erase (m : KeyMap α) (key k : String) :
    (m.erase key).get? k = if k = key then none else m.get? k :=
  lookup_remove key k m.entries

/-- Changing values changes what every key has. -/
@[simp] theorem get?_map (f : α → β) (m : KeyMap α) (k : String) :
    (m.map f).get? k = (m.get? k).map f := by
  simp only [get?, map]
  induction m.entries with
  | nil => rfl
  | cons e rest ih => by_cases h : e.1 = k <;> simp [lookup, h, ih]

/-- Two maps that agree on every key are equal. -/
@[ext] theorem ext {m n : KeyMap α} (h : ∀ k, m.get? k = n.get? k) : m = n := by
  obtain ⟨l, hl⟩ := m
  obtain ⟨l', hl'⟩ := n
  have : l = l' := eq_of_lookup_eq hl hl' h
  subst this
  rfl

/-- The entries are the keys with what they have. -/
theorem mem_entries_iff (m : KeyMap α) (k : String) (a : α) :
    (k, a) ∈ m.entries ↔ m.get? k = some a :=
  mem_iff_lookup m.ordered k a

/-- The keys are those that have something. -/
theorem mem_keys_iff (m : KeyMap α) (k : String) : k ∈ m.keys ↔ (m.get? k).isSome := by
  constructor
  · intro h
    obtain ⟨e, he, rfl⟩ := List.mem_map.1 h
    rw [(mem_entries_iff m e.1 e.2).1 he]
    rfl
  · intro h
    obtain ⟨a, ha⟩ := Option.isSome_iff_exists.1 h
    exact List.mem_map.2 ⟨(k, a), (mem_entries_iff m k a).2 ha, rfl⟩

/-- The values of a map are what its keys have. -/
theorem mem_values_iff (m : KeyMap α) (a : α) :
    a ∈ m.values ↔ ∃ k, m.get? k = some a := by
  unfold KeyMap.values
  rw [List.mem_map]
  constructor
  · rintro ⟨⟨k, b⟩, hmem, rfl⟩
    exact ⟨k, (m.mem_entries_iff k b).1 hmem⟩
  · rintro ⟨k, hk⟩
    exact ⟨(k, a), (m.mem_entries_iff k a).2 hk, rfl⟩

/-- Filtering leaves what passes the test. -/
@[simp] theorem get?_filter (p : String → α → Bool) (m : KeyMap α) (k : String) :
    (m.filter p).get? k = (m.get? k).filter (p k) := by
  ext a
  rw [Option.filter_eq_some_iff, ← mem_entries_iff, ← mem_entries_iff]
  exact List.mem_filter

/-- The keys stand in increasing order, each once. -/
theorem keys_pairwise_lt (m : KeyMap α) : m.keys.Pairwise (· < ·) := m.ordered

/-- The entries before one of a map are those under smaller keys. -/
theorem mem_before_iff {m : KeyMap α} {before after : List (String × α)} {e : String × α}
    (h : m.entries = before ++ e :: after) (x : String × α) :
    x ∈ before ↔ x ∈ m.entries ∧ x.1 < e.1 := by
  have hordered : Ordered (before ++ e :: after) := h ▸ m.ordered
  obtain ⟨-, hafter, hlt⟩ := List.pairwise_append.1 (List.pairwise_map.1 hordered)
  rw [h, List.mem_append]
  constructor
  · intro hx
    exact ⟨.inl hx, hlt x hx e List.mem_cons_self⟩
  · rintro ⟨hx | hx, hxe⟩
    · exact hx
    · rcases List.mem_cons.1 hx with rfl | hx
      · exact absurd hxe (String.lt_irrefl _)
      · exact absurd hxe (String.lt_asymm ((List.pairwise_cons.1 hafter).1 x hx))

/-- The first result that a function has on the values is that on the value of a key, and there is
none on the values of smaller keys. -/
theorem findSome?_values_eq_some_iff {m : KeyMap α} {f : α → Option β} {b : β} :
    m.values.findSome? f = some b ↔
      ∃ k a, m.get? k = some a ∧ f a = some b ∧ ∀ j c, j < k → m.get? j = some c → f c = none := by
  unfold KeyMap.values
  rw [List.findSome?_map, List.findSome?_eq_some_iff]
  constructor
  · rintro ⟨before, e, after, hsplit, he, hbefore⟩
    have hmem : e ∈ m.entries := by
      rw [hsplit]
      exact List.mem_append_right before List.mem_cons_self
    refine ⟨e.1, e.2, (m.mem_entries_iff e.1 e.2).1 hmem, he, fun j c hj hc => ?_⟩
    exact hbefore (j, c) ((mem_before_iff hsplit _).2 ⟨(m.mem_entries_iff j c).2 hc, hj⟩)
  · rintro ⟨k, a, ha, hb, hsmaller⟩
    obtain ⟨before, after, hsplit⟩ := List.append_of_mem ((m.mem_entries_iff k a).2 ha)
    refine ⟨before, (k, a), after, hsplit, hb, fun x hx => ?_⟩
    obtain ⟨hmem, hlt⟩ := (mem_before_iff hsplit x).1 hx
    exact hsmaller x.1 x.2 hlt ((m.mem_entries_iff x.1 x.2).1 hmem)

/-- The first value that passes a test is that of a key, and none of those under smaller keys
passes. -/
theorem find?_values_eq_some_iff {m : KeyMap α} {p : α → Bool} {a : α} :
    m.values.find? p = some a ↔
      ∃ k, m.get? k = some a ∧ p a = true ∧ ∀ j b, j < k → m.get? j = some b → p b = false := by
  rw [List.find?_eq_findSome?_guard, findSome?_values_eq_some_iff]
  refine exists_congr fun k => ?_
  simp only [Option.guard_eq_some_iff, Option.guard_eq_none_iff]
  constructor
  · rintro ⟨b, hb, ⟨rfl, hp⟩, hsmaller⟩
    exact ⟨hb, hp, hsmaller⟩
  · rintro ⟨ha, hp, hsmaller⟩
    exact ⟨a, ha, ⟨rfl, hp⟩, hsmaller⟩

/-- No key comes twice. -/
theorem keys_nodup (m : KeyMap α) : m.keys.Nodup := by
  refine m.keys_pairwise_lt.imp fun {a b} hlt heq => ?_
  subst heq
  exact String.lt_irrefl _ hlt

end KeyMap

end SidecarAgent
