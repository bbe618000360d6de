import SidecarAgent.Config.Manager
import SidecarAgent.Proofs.Mergings

/-!
# What the operations of a manager do

Every operation of a manager comes down to mergings of its view.  `Explains m ms effect` says that
an operation on `m` passes through the mergings `ms` and delivers what they publish, and nothing
else; there is one such fact for every operation.  `Orderly v rs` says that a view is resolved and
keeps its sources, registered as `rs`, in order; every operation keeps it.
-/

namespace SidecarAgent.Config

universe u v

variable {ι : Type u} {lis : Type v}

namespace Manager

/-! ## Dispatching -/

/-- Events are dispatched one after another. -/
theorem dispatch_append (m : Manager ι lis) (es fs : List Event) :
    m.dispatch (es ++ fs) = m.dispatch es ++ m.dispatch fs :=
  List.flatMap_append

/-- Who gets an event depends on the listeners only. -/
theorem dispatch_congr {m n : Manager ι lis} (h : m.listeners = n.listeners) (es : List Event) :
    m.dispatch es = n.dispatch es := by
  unfold dispatch
  rw [h]

/-! ## The mergings of an operation -/

/-- The merging that entering an event comes down to; an event of an unknown source is not entered.
-/
def applyMergings (m : Manager ι lis) (e : Event) : List Merging :=
  if m.view.knows e.source then
    [(m.view.modifySnapshot e.source fun s => e.replay s).keyMerging e.key]
  else []

/-- The mergings of events that are entered one after another. -/
def applyAllMergings (m : Manager ι lis) : List Event → List Merging
  | [] => []
  | e :: rest => m.applyMergings e ++ (m.apply e).manager.applyAllMergings rest

/-- The mergings that an answer causes at once. -/
def answerMergings (m : Manager ι lis) : Answer → List Merging
  | .changed events => m.applyAllMergings events
  | .everything _ | .failed => []

/-- The mergings of a refresh: those that the answers cause at once, and that of every key at the
end. -/
def refreshMergings (m : Manager ι lis) (pulled : List (String × Snapshot)) :
    List (String × Answer) → List Merging
  | [] => [(m.view.replaceSnapshots pulled).fullMerging]
  | (name, answer) :: rest =>
    m.answerMergings answer ++
      (m.enterAnswer name answer).manager.refreshMergings (pulled ++ answer.pulled name) rest

/-! ## Explaining an operation -/

/-- Mergings explain an operation when the merged entries pass through them and what they publish is
what is delivered. -/
structure Explains (m : Manager ι lis) (ms : List Merging) (effect : Effect ι lis) : Prop where
  passes : Passes ι m.view.merged ms effect.manager.view.merged
  deliveries : effect.deliveries = m.dispatch (ms.flatMap Merging.events)
  listeners : effect.manager.listeners = m.listeners

/-- An operation without effect needs no merging. -/
theorem explains_nil (m : Manager ι lis) (notes : List Telemetry.Note) :
    Explains m [] ⟨m, [], notes⟩ :=
  ⟨.nil _, rfl, rfl⟩

/-- What explains two operations explains one after the other. -/
theorem Explains.andThen {m : Manager ι lis} {ms ns : List Merging} {first later : Effect ι lis}
    (hfirst : Explains m ms first) (hlater : Explains first.manager ns later)
    (notes : List Telemetry.Note) :
    Explains m (ms ++ ns) ⟨later.manager, first.deliveries ++ later.deliveries, notes⟩ := by
  refine ⟨hfirst.passes.append hlater.passes, ?_, hlater.listeners.trans hfirst.listeners⟩
  dsimp only
  rw [hfirst.deliveries, hlater.deliveries, dispatch_congr hfirst.listeners, List.flatMap_append,
    dispatch_append]

/-- Registering a source merges each of its keys. -/
theorem explains_addSource (m : Manager ι lis) (name : String) (priority : ℤ) (source : ι)
    (pulled : Option Snapshot) :
    Explains m
      ((m.view.place ⟨name, priority, source, pulled.getD ∅⟩).keyMergings (pulled.getD ∅).keys)
      (m.addSource name priority source pulled) := by
  refine ⟨?_, ?_, rfl⟩
  · exact View.passes_keyMergings (m.view.place ⟨name, priority, source, pulled.getD ∅⟩) _
  · rw [View.events_keyMergings]
    rfl

/-- Entering an event merges its key. -/
theorem explains_apply (m : Manager ι lis) (e : Event) :
    Explains m (m.applyMergings e) (m.apply e) := by
  unfold applyMergings apply View.enter?
  by_cases hknows : m.view.knows e.source = true
  · rw [if_pos hknows, if_pos hknows]
    refine ⟨?_, ?_, rfl⟩
    · exact Passes.single
        (.one (m.view.modifySnapshot e.source fun s => e.replay s) e.key)
    · rw [List.flatMap_singleton]
      rfl
  · rw [if_neg hknows, if_neg hknows]
    exact explains_nil m _

/-- Entering events merges their keys, one after another. -/
theorem explains_applyAll (m : Manager ι lis) (es : List Event) :
    Explains m (m.applyAllMergings es) (m.applyAll es) := by
  induction es generalizing m with
  | nil => exact explains_nil m _
  | cons e rest ih => exact (explains_apply m e).andThen (ih (m.apply e).manager) _

/-- Replacing snapshots merges every key. -/
theorem explains_replaceAll (m : Manager ι lis) (pulled : List (String × Snapshot)) :
    Explains m [(m.view.replaceSnapshots pulled).fullMerging] (m.replaceAll pulled) := by
  -- no merging is done yet, so the values to compare with are still those of `m`
  have hmerged : (m.view.replaceSnapshots pulled).merged = m.view.merged := by
    unfold View.replaceSnapshots
    induction pulled generalizing m with
    | nil => rfl
    | cons p rest ih => exact ih { m with view := m.view.modifySnapshot p.1 fun _ => p.2 }
  refine ⟨?_, ?_, rfl⟩
  · rw [← hmerged]
    exact Passes.single (.every (m.view.replaceSnapshots pulled))
  · rw [List.flatMap_singleton]
    rfl

/-- Where every key is resolved, merging every key again changes nothing and publishes nothing. -/
theorem replaceAll_nil_of_resolved {m : Manager ι lis} (hm : m.view.Resolved) :
    m.replaceAll [] = ⟨m, [], []⟩ := by
  unfold replaceAll View.replaceSnapshots
  rw [List.foldl_nil, View.remerge_of_resolved hm]
  rfl

/-- Where every key is resolved, entering that sources have failed changes nothing and publishes
nothing. -/
theorem enterAnswers_failed {m : Manager ι lis} (hm : m.view.Resolved)
    {answers : List (String × Answer)} (hfailed : ∀ a ∈ answers, a.2 = .failed) :
    (m.enterAnswers [] answers).manager = m ∧ (m.enterAnswers [] answers).deliveries = [] := by
  induction answers with
  | nil =>
    unfold enterAnswers
    rw [replaceAll_nil_of_resolved hm]
    exact ⟨rfl, rfl⟩
  | cons a rest ih =>
    obtain ⟨name, answer⟩ := a
    obtain rfl : answer = .failed := hfailed (name, answer) (by simp)
    exact ih fun b hb => hfailed b (by simp [hb])

/-- A refresh in which every source fails changes nothing and publishes nothing. -/
theorem refresh_failed {m : Manager ι lis} (hm : m.view.Resolved) :
    (m.refresh fun _ => .failed).manager = m ∧ (m.refresh fun _ => .failed).deliveries = [] := by
  refine enterAnswers_failed hm fun a ha => ?_
  obtain ⟨n, hn, rfl⟩ := List.mem_mapIdx.1 ha
  rfl

/-- Entering an answer merges the keys of the changes that it reports. -/
theorem explains_enterAnswer (m : Manager ι lis) (name : String) (answer : Answer) :
    Explains m (m.answerMergings answer) (m.enterAnswer name answer) := by
  cases answer with
  | changed events => exact explains_applyAll m events
  | everything snapshot => exact explains_nil m _
  | failed => exact explains_nil m _

/-- Entering answers merges the keys of all reported changes, and then every key. -/
theorem explains_enterAnswers (m : Manager ι lis) (pulled : List (String × Snapshot))
    (answers : List (String × Answer)) :
    Explains m (m.refreshMergings pulled answers) (m.enterAnswers pulled answers) := by
  induction answers generalizing m pulled with
  | nil => exact explains_replaceAll m pulled
  | cons a rest ih =>
    obtain ⟨name, answer⟩ := a
    exact (explains_enterAnswer m name answer).andThen (ih _ _) _

end Manager

/-! ## Order -/

namespace View

/-- A view is orderly when it is resolved and its sources, which were registered as `rs` one after
another, are sorted by priority and, among equals, in the order of their registration. -/
structure Orderly (v : View ι) (rs : List (Registration ι)) : Prop where
  resolved : v.Resolved
  sorted : Sorted v.sources
  inOrder : ∀ p : ℤ, (v.sources.map Registered.registration).filter (fun r => r.priority = p) =
    rs.filter fun r => r.priority = p

/-- Sources are sorted when their registrations are. -/
theorem sorted_iff_registrations {sources : List (Registered ι)} :
    Sorted sources ↔
      (sources.map Registered.registration).Pairwise fun r s => r.priority ≤ s.priority := by
  unfold Sorted
  rw [List.pairwise_map]
  rfl

/-- A resolved view with the same registrations is orderly too. -/
theorem Orderly.of_registrations_eq {v w : View ι} {rs : List (Registration ι)}
    (hv : v.Orderly rs) (hresolved : w.Resolved)
    (hsame : w.sources.map Registered.registration = v.sources.map Registered.registration) :
    w.Orderly rs := by
  refine ⟨hresolved, ?_, fun p => ?_⟩
  · rw [sorted_iff_registrations, hsame, ← sorted_iff_registrations]
    exact hv.sorted
  · rw [hsame]
    exact hv.inOrder p

/-- The registrations of a priority, among the sources. -/
theorem filter_map_registration (sources : List (Registered ι)) (p : ℤ) :
    (sources.map Registered.registration).filter (fun r => r.priority = p) =
      (sources.filter fun s => s.priority = p).map Registered.registration := by
  rw [List.filter_map]
  rfl

/-- Registering a source keeps a view orderly. -/
theorem Orderly.register {v : View ι} {rs : List (Registration ι)} (hv : v.Orderly rs)
    (r : Registered ι) : (v.register r).1.Orderly (rs ++ [r.registration]) := by
  have hsources : (v.register r).1.sources = insertSource r v.sources :=
    remergeKeys_sources (v.place r) r.snapshot.keys
  refine ⟨resolved_register hv.resolved r, ?_, fun p => ?_⟩
  · rw [hsources]
    exact sorted_insertSource hv.sorted r
  · rw [hsources, filter_map_registration, filter_priority_insertSource hv.sorted, List.map_append,
      ← filter_map_registration, hv.inOrder, ← filter_map_registration, List.filter_append]
    rfl

/-- Entering an event keeps a view orderly. -/
theorem Orderly.remergeKey_modifySnapshot {v : View ι} {rs : List (Registration ι)}
    (hv : v.Orderly rs) (e : Event) :
    ((v.modifySnapshot e.source fun s => e.replay s).remergeKey e.key).1.Orderly rs := by
  refine hv.of_registrations_eq (resolved_remergeKey fun k hk => ?_) ?_
  · rw [resolve_modifySnapshot v e.source fun s => by rw [get?_replay, if_neg hk]]
    exact hv.resolved k
  · exact registrations_modifySnapshot v e.source _

/-- Replacing snapshots and merging every key keeps a view orderly. -/
theorem Orderly.remerge_replaceSnapshots {v : View ι} {rs : List (Registration ι)}
    (hv : v.Orderly rs) (pulled : List (String × Snapshot)) :
    (v.replaceSnapshots pulled).remerge.1.Orderly rs :=
  hv.of_registrations_eq (resolved_remerge _) (registrations_replaceSnapshots v pulled)

end View

namespace Manager

variable {m : Manager ι lis} {rs : List (Registration ι)}

/-- Entering an event keeps the view orderly. -/
theorem orderly_apply (hm : m.view.Orderly rs) (e : Event) :
    (m.apply e).manager.view.Orderly rs := by
  unfold apply View.enter?
  cases hknows : m.view.knows e.source with
  | false => exact hm
  | true => exact hm.remergeKey_modifySnapshot e

/-- Entering events keeps the view orderly. -/
theorem orderly_applyAll (hm : m.view.Orderly rs) (es : List Event) :
    (m.applyAll es).manager.view.Orderly rs := by
  induction es generalizing m with
  | nil => exact hm
  | cons e rest ih => exact ih (orderly_apply hm e)

/-- Entering an answer keeps the view orderly. -/
theorem orderly_enterAnswer (hm : m.view.Orderly rs) (name : String) (answer : Answer) :
    (m.enterAnswer name answer).manager.view.Orderly rs := by
  cases answer with
  | changed events => exact orderly_applyAll hm events
  | everything snapshot => exact hm
  | failed => exact hm

/-- Entering answers keeps the view orderly. -/
theorem orderly_enterAnswers (hm : m.view.Orderly rs) (pulled : List (String × Snapshot))
    (answers : List (String × Answer)) :
    (m.enterAnswers pulled answers).manager.view.Orderly rs := by
  induction answers generalizing m pulled with
  | nil => exact hm.remerge_replaceSnapshots pulled
  | cons a rest ih =>
    obtain ⟨name, answer⟩ := a
    exact ih (orderly_enterAnswer hm name answer) _

end Manager

end SidecarAgent.Config
