import Mathlib.Data.List.Basic
import SidecarAgent.Config.Source
import SidecarAgent.Egress.RuleFile
import SidecarAgent.Proofs.ListenerReplay
import SidecarAgent.Proofs.SourceEvents

/-!
# What sources retain after a refresh

A refresh enters all changes that sources report, one after another, and then replaces the snapshots
of the sources that returned everything (`enterAnswers_eq`).  Both go by name.  Of the sources of
one name the first takes what was reported under the name, or the snapshot that the last of them
returned, and the others keep what they had (`getElem?_inquire`).  So a source retains what it
returned itself where no other source has its name (`retained_of_own_name`), and not everywhere
(`retained_of_shared_name`).
-/

namespace SidecarAgent.Config

open Discovery (DiscoveryError)

universe u v

variable {ι : Type u} {lis : Type v}

/-! ## Sources by their places -/

/-- A place is the first one of its name when the name stands at no place before it. -/
def FirstOfName (names : List String) (n : ℕ) : Prop := ∀ k < n, names[k]? ≠ names[n]?

instance (names : List String) (n : ℕ) : Decidable (FirstOfName names n) :=
  inferInstanceAs (Decidable (∀ k < n, names[k]? ≠ names[n]?))

/-- A place is the only one of its name when the name stands at no other place. -/
def OnlyOfName (names : List String) (n : ℕ) : Prop := ∀ k, names[k]? = names[n]? → k = n

/-- The only place of a name is the first one. -/
theorem OnlyOfName.first {names : List String} {n : ℕ} (h : OnlyOfName names n) :
    FirstOfName names n := fun k hk heq => by
  have := h k heq
  omega

/-- The first place of all is the first one of its name. -/
theorem firstOfName_zero (names : List String) : FirstOfName names 0 := fun k hk => by omega

/-- A place behind a name is the first one of its own name when it is so without that name, and has
another. -/
theorem firstOfName_succ {name : String} {names : List String} {n : ℕ} :
    FirstOfName (name :: names) (n + 1) ↔ names[n]? ≠ some name ∧ FirstOfName names n := by
  constructor
  · intro h
    refine ⟨fun heq => h 0 (by omega) ?_, fun k hk => ?_⟩
    · rw [List.getElem?_cons_zero, List.getElem?_cons_succ, heq]
    · have hnext := h (k + 1) (by omega)
      rwa [List.getElem?_cons_succ, List.getElem?_cons_succ] at hnext
  · rintro ⟨hname, hrest⟩ k hk
    rw [List.getElem?_cons_succ]
    cases k with
    | zero =>
      rw [List.getElem?_cons_zero]
      exact hname.symm
    | succ k =>
      rw [List.getElem?_cons_succ]
      exact hrest k (by omega)

namespace View

/-- The names of the sources of a view. -/
def names (v : View ι) : List String := v.sources.map Registered.name

/-- A source has the name that stands at its place. -/
theorem getElem?_names {v : View ι} {n : ℕ} {r : Registered ι} (h : v.sources[n]? = some r) :
    v.names[n]? = some r.name := by
  unfold names
  rw [List.getElem?_map, h]
  rfl

/-- Where all names are different, every source is the only one of its name. -/
theorem onlyOfName_of_nodup {v : View ι} (hnames : v.names.Nodup) {n : ℕ} {r : Registered ι}
    (hr : v.sources[n]? = some r) : OnlyOfName v.names n := by
  have hn : n < v.names.length := (List.getElem?_eq_some_iff.1 (getElem?_names hr)).1
  exact fun k heq => ((List.getElem?_inj hn hnames).1 heq.symm).symm

/-- Of the sources of a name, the first one changes. -/
theorem getElem?_modifyFirst (name : String) (f : Registered ι → Registered ι)
    (sources : List (Registered ι)) (n : ℕ) :
    (modifyFirst name f sources)[n]? = sources[n]?.map fun r =>
      if r.name = name ∧ FirstOfName (sources.map Registered.name) n then f r else r := by
  induction sources generalizing n with
  | nil => rfl
  | cons s rest ih =>
    unfold modifyFirst
    cases n with
    | zero =>
      by_cases hs : s.name = name <;> simp [hs, firstOfName_zero]
    | succ n =>
      rw [List.getElem?_cons_succ, List.map_cons]
      by_cases hs : s.name = name
      · rw [if_pos hs, List.getElem?_cons_succ]
        -- the change is made before this place, at which nothing of the name comes first
        cases hr : rest[n]? with
        | none => rfl
        | some r =>
          have hnot : ¬ (r.name = name ∧
              FirstOfName (s.name :: rest.map Registered.name) (n + 1)) := by
            rintro ⟨hname, hfirst⟩
            refine (firstOfName_succ.1 hfirst).1 ?_
            rw [List.getElem?_map, hr, hs, ← hname]
            rfl
          rw [Option.map_some, if_neg hnot]
      · rw [if_neg hs, List.getElem?_cons_succ, ih]
        cases hr : rest[n]? with
        | none => rfl
        | some r =>
          have hsame : (r.name = name ∧ FirstOfName (rest.map Registered.name) n) ↔
              (r.name = name ∧ FirstOfName (s.name :: rest.map Registered.name) (n + 1)) := by
            rw [firstOfName_succ, List.getElem?_map, hr, Option.map_some]
            constructor
            · rintro ⟨hname, hfirst⟩
              refine ⟨hname, fun heq => hs ?_, hfirst⟩
              rw [← hname, Option.some.inj heq]
            · rintro ⟨hname, -, hfirst⟩
              exact ⟨hname, hfirst⟩
          rw [Option.map_some, Option.map_some, if_congr hsame rfl rfl]

/-- The names of the sources do not change with a snapshot. -/
theorem names_modifySnapshot (v : View ι) (name : String) (f : Snapshot → Snapshot) :
    (v.modifySnapshot name f).names = v.names := by
  have hregistered : ∀ w : View ι, w.names =
      (w.sources.map Registered.registration).map Registration.name := by
    intro w
    rw [List.map_map]
    rfl
  rw [hregistered, registrations_modifySnapshot, ← hregistered]

/-- Of the sources of a name, the first one has its snapshot changed. -/
theorem getElem?_modifySnapshot (v : View ι) (name : String) (f : Snapshot → Snapshot) (n : ℕ) :
    (v.modifySnapshot name f).sources[n]? = v.sources[n]?.map fun r =>
      if r.name = name ∧ FirstOfName v.names n then { r with snapshot := f r.snapshot } else r :=
  getElem?_modifyFirst name (fun r => { r with snapshot := f r.snapshot }) v.sources n

/-- Where no source is known by a name, changing the snapshot under it changes nothing. -/
theorem sources_modifySnapshot_of_unknown {v : View ι} {name : String}
    (hunknown : v.knows name = false) (f : Snapshot → Snapshot) :
    (v.modifySnapshot name f).sources = v.sources := by
  refine List.ext_getElem? fun n => ?_
  rw [getElem?_modifySnapshot]
  cases hr : v.sources[n]? with
  | none => rfl
  | some r =>
    have hother : r.name ≠ name := by
      intro hname
      have hknown : v.knows name = true :=
        List.any_eq_true.2 ⟨r, List.mem_of_getElem? hr, decide_eq_true hname⟩
      rw [hunknown] at hknown
      cases hknown
    rw [Option.map_some, if_neg fun h => hother h.1]

/-- The first of some events is replayed on the first source of its name, if there is one, before
the others are entered. -/
theorem exists_enterAll_cons (v : View ι) (e : Event) (rest : List Event) :
    ∃ w : View ι, (v.enterAll (e :: rest)).1 = (w.enterAll rest).1 ∧
      w.sources = (v.modifySnapshot e.source fun s => e.replay s).sources := by
  rw [enterAll]
  cases hknows : v.knows e.source with
  | true =>
    have hentered : v.enter? e =
        some ((v.modifySnapshot e.source fun s => e.replay s).remergeKey e.key) := if_pos hknows
    rw [hentered]
    exact ⟨_, rfl, rfl⟩
  | false =>
    have hentered : v.enter? e = none := if_neg (by simp [hknows])
    rw [hentered]
    exact ⟨v, rfl, (sources_modifySnapshot_of_unknown hknows _).symm⟩

/-- What is entered under a name is replayed on the first source of the name. -/
theorem getElem?_enterAll (v : View ι) (es : List Event) (n : ℕ) :
    (v.enterAll es).1.sources[n]? = v.sources[n]?.map fun r =>
      if FirstOfName v.names n then
        { r with snapshot := (es.filter fun e => e.source = r.name).foldl Event.replay r.snapshot }
      else r := by
  induction es generalizing v with
  | nil =>
    show v.sources[n]? = _
    cases v.sources[n]? <;> simp
  | cons e rest ih =>
    -- the rest is entered into sources that differ from those of `v` in the snapshot that `e`
    -- changed
    obtain ⟨w, hw, hsources⟩ := v.exists_enterAll_cons e rest
    have hnames : w.names = v.names := by
      rw [← v.names_modifySnapshot e.source fun s => e.replay s]
      unfold names
      rw [hsources]
    rw [hw, ih, hnames, hsources, getElem?_modifySnapshot]
    cases v.sources[n]? with
    | none => rfl
    | some r =>
      by_cases hfirst : FirstOfName v.names n
      · by_cases hname : r.name = e.source
        · simp [hfirst, hname, List.filter_cons]
        · simp [hfirst, hname, List.filter_cons, Ne.symm hname]
      · simp [hfirst]

/-- The names of the sources do not change with the events that are entered. -/
theorem names_enterAll (v : View ι) (es : List Event) : (v.enterAll es).1.names = v.names := by
  refine List.ext_getElem? fun n => ?_
  unfold names
  rw [List.getElem?_map, List.getElem?_map, getElem?_enterAll, Option.map_map]
  refine congrArg (Option.map · _) (funext fun r => ?_)
  dsimp only [Function.comp]
  split <;> rfl

/-- What was returned last under a name, if anything was. -/
def lastUnder (name : String) (returned : List (String × Snapshot)) : Option Snapshot :=
  ((returned.filter fun p => p.1 = name).getLast?).map Prod.snd

/-- Nothing was returned last under a name when nothing was returned under it. -/
theorem lastUnder_eq_none_iff {name : String} {returned : List (String × Snapshot)} :
    lastUnder name returned = none ↔ ∀ p ∈ returned, p.1 ≠ name := by
  unfold lastUnder
  simp

/-- What was returned alone under a name was returned last. -/
theorem lastUnder_eq_some_of_only {name : String} {s : Snapshot}
    {returned : List (String × Snapshot)} (hmem : (name, s) ∈ returned)
    (honly : ∀ p ∈ returned, p.1 = name → p.2 = s) : lastUnder name returned = some s := by
  unfold lastUnder
  cases hlast : (returned.filter fun p => p.1 = name).getLast? with
  | none =>
    rw [List.getLast?_eq_none_iff, List.filter_eq_nil_iff] at hlast
    exact absurd (decide_eq_true rfl) (hlast (name, s) hmem)
  | some p =>
    have hp := List.mem_filter.1 (List.mem_of_getLast? hlast)
    rw [Option.map_some, honly p hp.1 (of_decide_eq_true hp.2)]

/-- What was returned last under a name, when something comes first. -/
theorem lastUnder_cons (name : String) (p : String × Snapshot) (rest : List (String × Snapshot)) :
    lastUnder name (p :: rest) =
      (lastUnder name rest).or (if p.1 = name then some p.2 else none) := by
  unfold lastUnder
  rw [List.filter_cons]
  by_cases hp : p.1 = name
  · rw [if_pos (decide_eq_true hp), if_pos hp, List.getLast?_cons]
    cases (rest.filter fun p => p.1 = name).getLast? <;> rfl
  · rw [if_neg (by simpa using hp), if_neg hp, Option.or_none]

/-- What is returned last under a name replaces the snapshot of the first source of the name. -/
theorem getElem?_replaceSnapshots (v : View ι) (returned : List (String × Snapshot)) (n : ℕ) :
    (v.replaceSnapshots returned).sources[n]? = v.sources[n]?.map fun r =>
      if FirstOfName v.names n then
        { r with snapshot := (lastUnder r.name returned).getD r.snapshot }
      else r := by
  induction returned generalizing v with
  | nil =>
    show v.sources[n]? = _
    cases v.sources[n]? <;> simp [lastUnder]
  | cons p rest ih =>
    have hfirst : v.replaceSnapshots (p :: rest) =
        (v.modifySnapshot p.1 fun _ => p.2).replaceSnapshots rest := rfl
    rw [hfirst, ih, names_modifySnapshot, getElem?_modifySnapshot]
    cases v.sources[n]? with
    | none => rfl
    | some r =>
      by_cases hfirst : FirstOfName v.names n
      · by_cases hname : r.name = p.1
        · simp [hfirst, hname, lastUnder_cons]
        · simp [hfirst, hname, lastUnder_cons, Ne.symm hname]
      · simp [hfirst]

/-- Replacing snapshots merges nothing. -/
theorem merged_replaceSnapshots (v : View ι) (returned : List (String × Snapshot)) :
    (v.replaceSnapshots returned).merged = v.merged := by
  unfold replaceSnapshots
  induction returned generalizing v with
  | nil => rfl
  | cons p rest ih => exact ih (v.modifySnapshot p.1 fun _ => p.2)

end View

/-! ## A refresh in one piece -/

namespace Manager

/-- The changes in an answer. -/
def changesIn : Answer → List Event
  | .changed events => events
  | .everything _ | .failed => []

/-- The changes in some answers, in the order in which they are entered. -/
def reported (answers : List (String × Answer)) : List Event :=
  answers.flatMap fun a => changesIn a.2

/-- The snapshots in some answers, each under the name of its source. -/
def returned (answers : List (String × Answer)) : List (String × Snapshot) :=
  answers.flatMap fun a => a.2.pulled a.1

/-- Entering an answer enters its changes. -/
theorem enterAnswer_eq_applyAll (m : Manager ι lis) (name : String) (answer : Answer) :
    (m.enterAnswer name answer).manager = (m.applyAll (changesIn answer)).manager ∧
      (m.enterAnswer name answer).deliveries = (m.applyAll (changesIn answer)).deliveries := by
  cases answer <;> exact ⟨rfl, rfl⟩

/-- Events are applied one after another. -/
theorem applyAll_append (m : Manager ι lis) (es fs : List Event) :
    (m.applyAll (es ++ fs)).manager = ((m.applyAll es).manager.applyAll fs).manager ∧
      (m.applyAll (es ++ fs)).deliveries =
        (m.applyAll es).deliveries ++ ((m.applyAll es).manager.applyAll fs).deliveries := by
  induction es generalizing m with
  | nil => exact ⟨rfl, rfl⟩
  | cons e rest ih =>
    obtain ⟨hmanager, hdeliveries⟩ := ih (m.apply e).manager
    refine ⟨hmanager, ?_⟩
    show (m.apply e).deliveries ++ ((m.apply e).manager.applyAll (rest ++ fs)).deliveries = _
    rw [hdeliveries, ← List.append_assoc]
    rfl

/-- Entering answers is applying all reported changes, and then replacing all returned snapshots. -/
theorem enterAnswers_eq (m : Manager ι lis) (pulled : List (String × Snapshot))
    (answers : List (String × Answer)) :
    let changed := m.applyAll (reported answers)
    let replaced := changed.manager.replaceAll (pulled ++ returned answers)
    (m.enterAnswers pulled answers).manager = replaced.manager ∧
      (m.enterAnswers pulled answers).deliveries = changed.deliveries ++ replaced.deliveries := by
  induction answers generalizing m pulled with
  | nil =>
    show (m.replaceAll pulled).manager = (m.replaceAll (pulled ++ [])).manager ∧
      (m.replaceAll pulled).deliveries = [] ++ (m.replaceAll (pulled ++ [])).deliveries
    rw [List.append_nil]
    exact ⟨rfl, rfl⟩
  | cons a rest ih =>
    obtain ⟨name, answer⟩ := a
    obtain ⟨hfirst, hdelivered⟩ := m.enterAnswer_eq_applyAll name answer
    obtain ⟨hmanager, hdeliveries⟩ :=
      ih (m.enterAnswer name answer).manager (pulled ++ answer.pulled name)
    obtain ⟨happlied, hboth⟩ := m.applyAll_append (changesIn answer) (reported rest)
    have hreported : reported ((name, answer) :: rest) = changesIn answer ++ reported rest := rfl
    have hreturned : pulled ++ returned ((name, answer) :: rest) =
        pulled ++ answer.pulled name ++ returned rest := (List.append_assoc _ _ _).symm
    rw [hreported, hreturned]
    dsimp only
    rw [happlied, hboth, ← hfirst, ← hdelivered]
    refine ⟨hmanager, ?_⟩
    show (m.enterAnswer name answer).deliveries ++ _ = _
    rw [hdeliveries, ← List.append_assoc]

end Manager

/-! ## Asking sources -/

/-- How a source takes being asked in a refresh.  A source without a record of its own returns all
that it has, or fails.  A polled one pulls, and reports the difference to what it has. -/
inductive Inquiry where
  | fixed (returned : Option Snapshot)
  | polled (current : Snapshot) (pulled : Except DiscoveryError Snapshot)

namespace Inquiry

/-- What the source of a registration answers. -/
def answer (r : Registered ι) : Inquiry → Answer
  | fixed (some s) => .everything s
  | fixed none => .failed
  | polled current pulled =>
    match ((PolledSource.mk r.name r.priority current).refresh pulled).2 with
    | .ok events => .changed events
    | .error _ => .failed

/-- The snapshot that is returned whole, if one is. -/
def whole? : Inquiry → Option Snapshot
  | fixed returned => returned
  | polled _ _ => none

/-- The source answers with a snapshot. -/
def Brings (s : Snapshot) : Inquiry → Prop
  | fixed returned => returned = some s
  | polled _ pulled => pulled = .ok s

/-- Changes are reported by polled sources, under their names. -/
theorem eq_polled_of_mem_changesIn {r : Registered ι} {inquiry : Inquiry} {e : Event}
    (he : e ∈ Manager.changesIn (inquiry.answer r)) :
    ∃ current new, inquiry = polled current (.ok new) ∧ e ∈ diff r.name current new := by
  cases inquiry with
  | fixed returned => cases returned <;> cases he
  | polled current pulled =>
    cases pulled with
    | error e => cases he
    | ok new => exact ⟨current, new, rfl, he⟩

/-- Whole snapshots are returned by sources without a record of their own, under their names. -/
theorem mem_pulled_answer_iff {r : Registered ι} {inquiry : Inquiry} {p : String × Snapshot} :
    p ∈ (inquiry.answer r).pulled r.name ↔ inquiry.whole? = some p.2 ∧ p.1 = r.name := by
  obtain ⟨name, s⟩ := p
  cases inquiry with
  | fixed returned =>
    cases returned with
    | none => simp [answer, Answer.pulled, whole?]
    | some t => simp [answer, Answer.pulled, whole?, and_comm, eq_comm]
  | polled current pulled =>
    cases pulled <;> simp [answer, PolledSource.refresh, Answer.pulled, whole?]

end Inquiry

namespace Manager

/-- What the sources of a manager answer, each asked in its way, with their names. -/
def answers (m : Manager ι lis) (inquiry : ℕ → Inquiry) : List (String × Answer) :=
  m.view.sources.mapIdx fun n r => (r.name, (inquiry n).answer r)

/-- Refreshes a manager whose sources are asked, each in its way. -/
def inquire (m : Manager ι lis) (inquiry : ℕ → Inquiry) : Effect ι lis :=
  m.refresh fun n => match m.view.sources[n]? with
    | some r => (inquiry n).answer r
    | none => .failed

/-- A refresh enters what the sources answer. -/
theorem inquire_eq_enterAnswers (m : Manager ι lis) (inquiry : ℕ → Inquiry) :
    m.inquire inquiry = m.enterAnswers [] (m.answers inquiry) := by
  unfold inquire refresh answers
  congr 1
  refine List.ext_getElem? fun n => ?_
  rw [List.getElem?_mapIdx, List.getElem?_mapIdx]
  cases hr : m.view.sources[n]? with
  | none => rfl
  | some r => simp [hr]

/-- What is reported in a refresh is reported by the polled sources. -/
theorem exists_of_mem_reported {m : Manager ι lis} {inquiry : ℕ → Inquiry} {e : Event}
    (he : e ∈ reported (m.answers inquiry)) :
    ∃ n r current new, m.view.sources[n]? = some r ∧ inquiry n = .polled current (.ok new) ∧
      e ∈ diff r.name current new := by
  obtain ⟨a, ha, hmem⟩ := List.mem_flatMap.1 he
  obtain ⟨n, hn, rfl⟩ := List.mem_mapIdx.1 ha
  obtain ⟨current, new, hpolled, hdiff⟩ := Inquiry.eq_polled_of_mem_changesIn hmem
  exact ⟨n, _, current, new, List.getElem?_eq_getElem hn, hpolled, hdiff⟩

/-- What is returned in a refresh is returned by the sources without a record of their own. -/
theorem mem_returned_iff {m : Manager ι lis} {inquiry : ℕ → Inquiry} {p : String × Snapshot} :
    p ∈ returned (m.answers inquiry) ↔
      ∃ n r, m.view.sources[n]? = some r ∧ (inquiry n).whole? = some p.2 ∧ p.1 = r.name := by
  unfold returned answers
  rw [List.mem_flatMap]
  constructor
  · rintro ⟨a, ha, hmem⟩
    obtain ⟨n, hn, rfl⟩ := List.mem_mapIdx.1 ha
    exact ⟨n, _, List.getElem?_eq_getElem hn, Inquiry.mem_pulled_answer_iff.1 hmem⟩
  · rintro ⟨n, r, hr, hp⟩
    refine ⟨(r.name, (inquiry n).answer r), ?_, Inquiry.mem_pulled_answer_iff.2 hp⟩
    refine List.mem_of_getElem? (i := n) ?_
    rw [List.getElem?_mapIdx, hr]
    rfl

/-- The state that a refresh leaves. -/
theorem manager_inquire (m : Manager ι lis) (inquiry : ℕ → Inquiry) :
    let changed := (m.view.enterAll (reported (m.answers inquiry))).1
    (m.inquire inquiry).manager =
      { m with view := (changed.replaceSnapshots (returned (m.answers inquiry))).remerge.1 } := by
  rw [inquire_eq_enterAnswers, (m.enterAnswers_eq [] (m.answers inquiry)).1, manager_applyAll]
  rfl

/-- The events that a refresh delivers. -/
theorem deliveries_inquire (m : Manager ι lis) (inquiry : ℕ → Inquiry) :
    let entered := m.view.enterAll (reported (m.answers inquiry))
    (m.inquire inquiry).deliveries = m.dispatch
      (entered.2 ++ (entered.1.replaceSnapshots (returned (m.answers inquiry))).remerge.2) := by
  intro entered
  rw [inquire_eq_enterAnswers, (m.enterAnswers_eq [] (m.answers inquiry)).2, deliveries_applyAll,
    manager_applyAll, dispatch_append]
  rfl

/-- What some answers leave to the first source of a name: the snapshot that was returned last under
the name, or else what the source had, with what was reported under the name. -/
def leaves (answers : List (String × Answer)) (r : Registered ι) : Snapshot :=
  (View.lastUnder r.name (returned answers)).getD
    (((reported answers).filter fun e => e.source = r.name).foldl Event.replay r.snapshot)

/-- After a refresh the first source of a name retains what the answers leave to it, and any other
source what it had. -/
theorem getElem?_inquire (m : Manager ι lis) (inquiry : ℕ → Inquiry) (n : ℕ) :
    (m.inquire inquiry).manager.view.sources[n]? = m.view.sources[n]?.map fun r =>
      if FirstOfName m.view.names n then { r with snapshot := leaves (m.answers inquiry) r }
      else r := by
  rw [manager_inquire]
  show (View.replaceSnapshots _ _).sources[n]? = _
  rw [View.getElem?_replaceSnapshots, View.names_enterAll, View.getElem?_enterAll, Option.map_map]
  refine congrArg (Option.map · _) (funext fun r => ?_)
  dsimp only [Function.comp]
  by_cases hfirst : FirstOfName m.view.names n
  · rw [if_pos hfirst, if_pos hfirst, if_pos hfirst]
    rfl
  · rw [if_neg hfirst, if_neg hfirst, if_neg hfirst]

/-- A source with a name of its own has its place by its name. -/
theorem eq_of_onlyOfName {m : Manager ι lis} {n k : ℕ} {r s : Registered ι}
    (honly : OnlyOfName m.view.names n) (hr : m.view.sources[n]? = some r)
    (hs : m.view.sources[k]? = some s) (hname : s.name = r.name) : k = n := by
  refine honly k ?_
  rw [View.getElem?_names hr, View.getElem?_names hs, hname]

/-- Under a name of its own, a source is the one that returns a snapshot last, if it returns one. -/
theorem lastUnder_returned {m : Manager ι lis} (inquiry : ℕ → Inquiry) {n : ℕ} {r : Registered ι}
    (honly : OnlyOfName m.view.names n) (hr : m.view.sources[n]? = some r) :
    View.lastUnder r.name (returned (m.answers inquiry)) = (inquiry n).whole? := by
  -- what is returned under the name is returned at the place of the source
  have hown : ∀ p ∈ returned (m.answers inquiry), p.1 = r.name → (inquiry n).whole? = some p.2 := by
    intro p hp hname
    obtain ⟨k, s, hs, hwhole, hpname⟩ := mem_returned_iff.1 hp
    rwa [eq_of_onlyOfName honly hr hs (hpname.symm.trans hname)] at hwhole
  cases hwhole : (inquiry n).whole? with
  | none =>
    rw [View.lastUnder_eq_none_iff]
    intro p hp hname
    have hsome := hown p hp hname
    rw [hwhole] at hsome
    cases hsome
  | some s =>
    refine View.lastUnder_eq_some_of_only (mem_returned_iff.2 ⟨n, r, hr, hwhole, rfl⟩) ?_
    intro p hp hname
    have hsome := hown p hp hname
    rw [hwhole] at hsome
    exact (Option.some.inj hsome).symm

/-- Under a name of its own, a source without a record of its changes has none reported. -/
theorem filter_reported_of_fixed {m : Manager ι lis} {inquiry : ℕ → Inquiry} {n : ℕ}
    {r : Registered ι} (honly : OnlyOfName m.view.names n) (hr : m.view.sources[n]? = some r)
    {pulled : Option Snapshot} (hfixed : inquiry n = .fixed pulled) :
    ((reported (m.answers inquiry)).filter fun e => e.source = r.name) = [] := by
  rw [List.filter_eq_nil_iff]
  intro e he
  obtain ⟨k, s, current, new, hs, hpolled, hdiff⟩ := exists_of_mem_reported he
  rw [decide_eq_true_eq]
  intro hname
  have hk : k = n := eq_of_onlyOfName honly hr hs ((source_of_mem_diff hdiff).symm.trans hname)
  rw [hk, hfixed] at hpolled
  cases hpolled

/-- Under a name of its own, a source without a record of its changes is left what it returned, or
what it had. -/
theorem leaves_of_fixed {m : Manager ι lis} {inquiry : ℕ → Inquiry} {n : ℕ} {r : Registered ι}
    (honly : OnlyOfName m.view.names n) (hr : m.view.sources[n]? = some r)
    {pulled : Option Snapshot} (hfixed : inquiry n = .fixed pulled) :
    leaves (m.answers inquiry) r = pulled.getD r.snapshot := by
  unfold leaves
  rw [lastUnder_returned inquiry honly hr, filter_reported_of_fixed honly hr hfixed, hfixed]
  rfl

/-! ## Refreshes that bring nothing new -/

/-- Where all names are different, what a source reports that pulls what is retained of it anyway
changes nothing. -/
theorem enterAll_reported_of_brings {m : Manager ι lis} (hm : m.view.Resolved)
    (hnames : m.view.names.Nodup) {inquiry : ℕ → Inquiry}
    (hbrings : ∀ n r, m.view.sources[n]? = some r → (inquiry n).Brings r.snapshot) :
    m.view.enterAll (reported (m.answers inquiry)) = (m.view, []) := by
  refine View.enterAll_of_unchanged fun e he => ?_
  obtain ⟨n, r, current, new, hr, hpolled, hdiff⟩ := exists_of_mem_reported he
  have hnew : new = r.snapshot := by
    have h := hbrings n r hr
    rw [hpolled] at h
    exact Except.ok.inj h
  rw [hnew] at hdiff
  obtain ⟨before, behind, hbetween⟩ := View.exists_hasBetween hnames (List.mem_of_getElem? hr)
  exact hbetween.enter?_of_replay_eq hm (source_of_mem_diff hdiff) (replay_eq_of_mem_diff hdiff)

/-- Where all names are different, a source that returns what is retained of it anyway has it
replaced by itself. -/
theorem replaceSnapshots_returned_of_brings {m : Manager ι lis} (hnames : m.view.names.Nodup)
    {inquiry : ℕ → Inquiry}
    (hbrings : ∀ n r, m.view.sources[n]? = some r → (inquiry n).Brings r.snapshot) :
    m.view.replaceSnapshots (returned (m.answers inquiry)) = m.view := by
  have hsources : (m.view.replaceSnapshots (returned (m.answers inquiry))).sources =
      m.view.sources := by
    refine List.ext_getElem? fun n => ?_
    rw [View.getElem?_replaceSnapshots]
    cases hr : m.view.sources[n]? with
    | none => rfl
    | some r =>
      have honly : OnlyOfName m.view.names n := View.onlyOfName_of_nodup hnames hr
      have hsame : ((inquiry n).whole?).getD r.snapshot = r.snapshot := by
        have h := hbrings n r hr
        cases hinquiry : inquiry n with
        | fixed returned =>
          rw [hinquiry] at h
          have hreturned : returned = some r.snapshot := h
          rw [hreturned]
          rfl
        | polled current pulled => rfl
      rw [Option.map_some, if_pos honly.first, lastUnder_returned inquiry honly hr, hsame]
  exact congrArg₂ View.mk hsources (View.merged_replaceSnapshots _ _)

/-- In every state that a run reaches, whatever the sources answer when they are asked in a refresh,
each source without a record of its own retains what it has returned itself, or what it had before
if it failed, provided that no other source has its name.  Of the sources of one name the first
retains what was returned last by any of them, and the others what they had.  Where all names are
different, a refresh in which each source brings what is retained of it anyway changes nothing and
delivers nothing. -/
theorem retained_of_own_name (ops : List (Operation ι)) (inquiry : ℕ → Inquiry) :
    let m := after ops
    let refreshed := (m.inquire inquiry).manager
    (∀ n r, m.view.sources[n]? = some r →
      (∀ pulled, inquiry n = .fixed pulled → OnlyOfName m.view.names n →
        refreshed.view.sources[n]? = some { r with snapshot := pulled.getD r.snapshot }) ∧
      (FirstOfName m.view.names n → refreshed.view.sources[n]? =
        some { r with snapshot := leaves (m.answers inquiry) r }) ∧
      (¬ FirstOfName m.view.names n → refreshed.view.sources[n]? = some r)) ∧
    (m.view.names.Nodup →
      (∀ n r, m.view.sources[n]? = some r → (inquiry n).Brings r.snapshot) →
      refreshed = m ∧ (m.inquire inquiry).deliveries = []) := by
  intro m refreshed
  have hresolved : m.view.Resolved := (orderly_run orderly_empty ops).resolved
  refine ⟨fun n r hr => ⟨fun pulled hfixed honly => ?_, fun hfirst => ?_, fun hfirst => ?_⟩,
    fun hnames hbrings => ?_⟩
  · rw [getElem?_inquire, hr, Option.map_some, if_pos honly.first, leaves_of_fixed honly hr hfixed]
  · rw [getElem?_inquire, hr, Option.map_some, if_pos hfirst]
  · rw [getElem?_inquire, hr, Option.map_some, if_neg hfirst]
  · have hentered := enterAll_reported_of_brings hresolved hnames hbrings
    have hreplaced := replaceSnapshots_returned_of_brings hnames hbrings
    have hmanager := m.manager_inquire inquiry
    have hdeliveries := m.deliveries_inquire inquiry
    rw [hentered] at hmanager hdeliveries
    dsimp only at hmanager hdeliveries
    rw [hreplaced, View.remerge_of_resolved hresolved] at hmanager hdeliveries
    exact ⟨hmanager, hdeliveries⟩

/-- Two sources with names of their own. -/
def apart : List (Operation Unit) :=
  [.listen "*", .addSource "kept" 1 () (some (KeyMap.ofList [("a", .raw [1]), ("b", .raw [2])])),
    .addSource "renewed" 1 () (some (KeyMap.ofList [("b", .raw [3])]))]

/-- When the first of these sources fails and the second returns something new, each retains its
own; and when both return what they have, nothing is delivered. -/
theorem retained_apart :
    let old : Snapshot := KeyMap.ofList [("b", .raw [3])]
    let new : Snapshot := KeyMap.ofList [("a", .raw [4])]
    let renewing : ℕ → Inquiry := fun n => .fixed (if n = 0 then none else some new)
    let repeating : ℕ → Inquiry := fun n =>
      .fixed (((after apart).view.sources[n]?).map Registered.snapshot)
    ((after apart).view.sources[1]? = some ⟨"renewed", 1, (), old⟩ ∧
      OnlyOfName (after apart).view.names 1 ∧
      ((after apart).inquire renewing).manager.view.sources[1]? = some ⟨"renewed", 1, (), new⟩) ∧
    (after apart).view.names.Nodup ∧
    (∀ n r, (after apart).view.sources[n]? = some r → (repeating n).Brings r.snapshot) ∧
    ((after apart).inquire repeating).manager = after apart ∧
    ((after apart).inquire repeating).deliveries = [] := by
  intro old new renewing repeating
  have hsecond : (after apart).view.sources[1]? = some ⟨"renewed", 1, (), old⟩ := rfl
  have hnames : (after apart).view.names.Nodup := by decide
  have honly : OnlyOfName (after apart).view.names 1 := View.onlyOfName_of_nodup hnames hsecond
  have hbrings : ∀ n r, (after apart).view.sources[n]? = some r →
      (repeating n).Brings r.snapshot := by
    intro n r hr
    show ((after apart).view.sources[n]?).map Registered.snapshot = some r.snapshot
    rw [hr]
    rfl
  exact ⟨⟨hsecond, honly,
      ((retained_of_own_name apart renewing).1 1 _ hsecond).1 (some new) rfl honly⟩,
    hnames, hbrings, (retained_of_own_name apart repeating).2 hnames hbrings⟩

/-- Two rule files, with rules under different keys. -/
def ruleFiles : List (Operation Unit) :=
  [.listen "*",
    .addSource Egress.fileSourceName Egress.fileSourcePriority ()
      (some (KeyMap.ofList [("a", .egressRules [])])),
    .addSource Egress.fileSourceName Egress.fileSourcePriority ()
      (some (KeyMap.ofList [("b", .egressRules [])]))]

/-- Rule files share one name.  When two of them are asked and both return what they have, as files
always do, the first comes to retain what the second has, and its own key is deleted. -/
theorem retained_of_shared_name :
    let first : Snapshot := KeyMap.ofList [("a", .egressRules [])]
    let second : Snapshot := KeyMap.ofList [("b", .egressRules [])]
    let repeating : ℕ → Inquiry := fun n => .fixed (some (if n = 0 then first else second))
    (after ruleFiles).view.sources.map Registered.snapshot = [first, second] ∧
    ((after ruleFiles).inquire repeating).manager.view.sources.map Registered.snapshot =
      [second, second] ∧
    ((after ruleFiles).inquire repeating).deliveries =
      [(0, ⟨Egress.fileSourceName, "a", .delete⟩)] ∧
    (after ruleFiles).view.values ≠
      ((after ruleFiles).inquire repeating).manager.view.values := by
  decide

end Manager

end SidecarAgent.Config
