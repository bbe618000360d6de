import SidecarAgent.Proofs.Publishing

/-!
# What the egress cache holds

The egress cache listens for every key.  Under each key it holds the rules that were valid last, as
long as the key is there (`foldl_enter_eq_some_iff`): rules that do not pass validation, and values
of another kind, leave the entry of their key as it is.
-/

namespace SidecarAgent.Egress

open Config
open Config.Manager (after heard mergingsBehind passes_behind)

universe u

variable {ι : Type u}

/-! ## Entries -/

/-- The rules of a value that is a valid rule set. -/
def validRules? : Value → Option ValidRules
  | .egressRules rules => (validate rules).toOption
  | .endpointSubset _ | .raw _ => none

/-- A value has valid rules when it is a rule set that passes validation. -/
theorem validRules?_eq_some_iff {v : Value} {valid : ValidRules} :
    validRules? v = some valid ↔ ∃ rules, v = .egressRules rules ∧ validate rules = .ok valid := by
  cases v with
  | egressRules rules =>
    unfold validRules?
    cases hvalidate : validate rules with
    | ok other =>
      simp [Except.toOption, hvalidate]
    | error e =>
      simp [Except.toOption, hvalidate]
  | endpointSubset subset => simp [validRules?]
  | raw bytes => simp [validRules?]

/-- The entry of a key after its new value: none without a value, the rules of a valid rule set, and
otherwise what it was. -/
def enter (entry : Option ValidRules) : Option Value → Option ValidRules
  | none => none
  | some v => (validRules? v).or entry

/-- An event enters the new value of its key, and no other. -/
theorem get?_onEvent (cache : Cache) (e : Event) (k : String) :
    (cache.onEvent e).1.get? k =
      if k = e.key then enter (cache.get? k) e.change.value? else cache.get? k := by
  unfold Cache.onEvent
  cases hvalue : e.change.value? with
  | none =>
    show (cache.erase e.key).get? k = _
    rw [KeyMap.get?_erase]
    rfl
  | some v =>
    cases v with
    | egressRules rules =>
      dsimp only [enter, validRules?]
      cases validate rules with
      | ok valid =>
        show (cache.insert e.key valid).get? k = _
        rw [KeyMap.get?_insert]
        rfl
      | error fault =>
        show cache.get? k = _
        by_cases hk : k = e.key
        · rw [if_pos hk]
          rfl
        · rw [if_neg hk]
    | endpointSubset subset =>
      show cache.get? k = if k = e.key then cache.get? k else cache.get? k
      rw [ite_self]
    | raw bytes =>
      show cache.get? k = if k = e.key then cache.get? k else cache.get? k
      rw [ite_self]

/-- Entering a value twice is entering it once. -/
theorem enter_enter (entry : Option ValidRules) (value : Option Value) :
    enter (enter entry value) value = enter entry value := by
  cases value with
  | none => rfl
  | some v =>
    show (validRules? v).or ((validRules? v).or entry) = (validRules? v).or entry
    cases validRules? v <;> rfl

/-- The egress cache as a follower. -/
def follower : Follower Cache ValidRules where
  onEvent := Cache.onEvent
  look := KeyMap.get?
  enter := fun _ => enter
  look_onEvent := get?_onEvent
  enter_enter := fun _ => enter_enter

/-! ## The rules that were valid last -/

/-- A snapshot has a key, but not with valid rules. -/
def LacksRules (s : Snapshot) (k : String) : Prop := ∃ v, s.get? k = some v ∧ validRules? v = none

/-- The last valid rules of a key in the course of some snapshots: one of the snapshots has them,
and in those behind it the key is there, but never with valid rules. -/
def LastValid (history : List Snapshot) (k : String) (valid : ValidRules) : Prop :=
  ∃ earlier s later, history = earlier ++ s :: later ∧ (s.get? k).bind validRules? = some valid ∧
    ∀ t ∈ later, LacksRules t k

/-- No rules were valid last when there was nothing. -/
theorem not_lastValid_nil (k : String) (valid : ValidRules) : ¬ LastValid [] k valid := by
  rintro ⟨earlier, s, later, hsplit, -⟩
  exact absurd hsplit (by simp)

/-- The last valid rules are in the first snapshot only if those behind it lack some. -/
theorem lastValid_cons_iff {s : Snapshot} {rest : List Snapshot} {k : String} {valid : ValidRules} :
    LastValid (s :: rest) k valid ↔
      LastValid rest k valid ∨
        (s.get? k).bind validRules? = some valid ∧ ∀ t ∈ rest, LacksRules t k := by
  constructor
  · rintro ⟨earlier, t, later, hsplit, hvalid, hlater⟩
    cases earlier with
    | nil =>
      rw [List.nil_append, List.cons.injEq] at hsplit
      obtain ⟨rfl, rfl⟩ := hsplit
      exact .inr ⟨hvalid, hlater⟩
    | cons first earlier =>
      rw [List.cons_append, List.cons.injEq] at hsplit
      exact .inl ⟨earlier, t, later, hsplit.2, hvalid, hlater⟩
  · rintro (⟨earlier, t, later, rfl, hvalid, hlater⟩ | ⟨hvalid, hrest⟩)
    · exact ⟨s :: earlier, t, later, rfl, hvalid, hlater⟩
    · exact ⟨[], s, rest, rfl, hvalid, hrest⟩

/-- An entry has valid rules when the new value brings them, or when they were there and the new
value has none. -/
theorem enter_eq_some_iff {entry : Option ValidRules} {s : Snapshot} {k : String}
    {valid : ValidRules} :
    enter entry (s.get? k) = some valid ↔
      (s.get? k).bind validRules? = some valid ∨ entry = some valid ∧ LacksRules s k := by
  unfold LacksRules
  cases s.get? k with
  | none => simp [enter]
  | some v =>
    cases hv : validRules? v with
    | none => simp [enter, hv]
    | some other => simp [enter, hv]

/-- Entering the values of snapshots one after another leaves the rules that were valid last. -/
theorem foldl_enter_eq_some_iff {history : List Snapshot} {k : String} {entry : Option ValidRules}
    {valid : ValidRules} :
    (history.map fun s => s.get? k).foldl enter entry = some valid ↔
      LastValid history k valid ∨ entry = some valid ∧ ∀ t ∈ history, LacksRules t k := by
  induction history generalizing entry with
  | nil => simp [not_lastValid_nil]
  | cons s rest ih =>
    rw [List.map_cons, List.foldl_cons, ih, enter_eq_some_iff, lastValid_cons_iff,
      List.forall_mem_cons]
    tauto

/-! ## Runs -/

/-- The egress cache whose listener a run registers, for every key, between its operations `before`
and `later`. -/
def published (before later : List (Operation ι)) : Cache :=
  follower.follow ∅ (heard before "*" later)

/-- The merged values that a run goes through from that registration on. -/
def course (before later : List (Operation ι)) : List Snapshot :=
  (after before).view.values ::
    (mergingsBehind before (.listen "*" :: later)).map Merging.newValues

/-- An empty cache is settled where there are no values. -/
theorem settled_empty : follower.Settled ∅ ∅ := by
  intro k
  show enter ((∅ : Cache).get? k) ((∅ : Snapshot).get? k) = (∅ : Cache).get? k
  rw [KeyMap.get?_emptyCollection, KeyMap.get?_emptyCollection]
  rfl

/-- When the egress cache listens before any source is registered, then after every operation it
has, under every key, exactly the rules of a valid rule set, nothing without a value, and in any
case the rules that were valid last since the key was last absent.  All of them pass validation, and
an event on one key changes nothing under another. -/
theorem cache_follows_rules (before later : List (Operation ι))
    (hbefore : ∀ op ∈ before, op.registration? = none) :
    let cache := published before later
    let values := (after (before ++ .listen "*" :: later)).view.values
    (∀ k rules valid, values.get? k = some (.egressRules rules) → validate rules = .ok valid →
      cache.get? k = some valid ∧ valid.rules = rules) ∧
    (∀ k, values.get? k = none → cache.get? k = none) ∧
    (∀ k valid, cache.get? k = some valid ↔ LastValid (course before later) k valid) ∧
    (∀ k valid, cache.get? k = some valid → validate valid.rules = .ok valid) ∧
    (∀ e k, k ≠ e.key → (cache.onEvent e).1.get? k = cache.get? k) ∧
    ∀ more k, (∀ m ∈ mergingsBehind (before ++ .listen "*" :: later) more,
        m.newValues.get? k = values.get? k) →
      (published before (later ++ more)).get? k = cache.get? k := by
  intro cache values
  have hempty : (after before).view.values = ∅ := Manager.values_run_eq_empty hbefore
  have hstart : follower.Settled ∅ (after before).view.values := by
    rw [hempty]
    exact settled_empty
  -- nothing is cached and nothing is there, so the cache is settled from its beginning
  have hsettled : ∀ k, enter (cache.get? k) (values.get? k) = cache.get? k :=
    follower.settled_follow_heard before later hstart
  refine ⟨fun k rules valid hvalue hvalid => ?_, fun k hvalue => ?_, fun k valid => ?_,
    fun k valid _ => validate_eq_ok_iff.2 rfl, fun e k hk => ?_, fun more k hsame => ?_⟩
  · have hrules : validRules? (.egressRules rules) = some valid :=
      validRules?_eq_some_iff.2 ⟨rules, rfl, hvalid⟩
    refine ⟨?_, validate_eq_ok_iff.1 hvalid⟩
    rw [← hsettled k, hvalue]
    show (validRules? (.egressRules rules)).or (cache.get? k) = some valid
    rw [hrules]
    rfl
  · rw [← hsettled k, hvalue]
    rfl
  · have hcourse : cache.get? k =
        ((course before later).map fun s => s.get? k).foldl enter none := by
      unfold course
      -- the course begins without the key, which enters nothing
      rw [hempty]
      exact follower.look_follow_heard before later hstart k
    rw [hcourse, foldl_enter_eq_some_iff]
    simp
  · rw [get?_onEvent, if_neg hk]
  · exact follower.look_follow_heard_append before later hstart more hsame

/-- Valid rules for one host. -/
def oneHost : ValidRules := ⟨[⟨["a.com"], [⟨80, "HTTP"⟩]⟩], by decide⟩

/-- A source that has those rules, and spoils them by a rule without hosts. -/
def spoiling : List (Operation Unit) :=
  [.addSource "file" 1 () (some ((∅ : Snapshot).insert "web" (.egressRules oneHost.rules))),
    .apply ⟨"file", "web", .update (.egressRules [{}])⟩]

/-- The egress cache keeps rules that their source spoils. -/
theorem published_spoiling :
    (∀ op ∈ [Operation.listen (ι := Unit) "web"], op.registration? = none) ∧
      (published [.listen "web"] spoiling).get? "web" = some oneHost := by
  have hnone : ∀ op ∈ [Operation.listen (ι := Unit) "web"], op.registration? = none := by
    simp [Operation.registration?]
  refine ⟨hnone, ((cache_follows_rules _ spoiling hnone).2.2.1 "web" oneHost).2 ?_⟩
  refine ⟨[∅], (∅ : Snapshot).insert "web" (.egressRules oneHost.rules),
    [(∅ : Snapshot).insert "web" (.egressRules [{}])], by decide, by decide, fun t ht => ?_⟩
  rw [List.mem_singleton.1 ht]
  exact ⟨.egressRules [{}], by decide, by decide⟩

end SidecarAgent.Egress
