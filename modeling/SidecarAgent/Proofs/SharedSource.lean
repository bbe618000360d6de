import Mathlib.Logic.Function.Basic
import SidecarAgent.Config.Source
import SidecarAgent.Proofs.ListenerReplay
import SidecarAgent.Proofs.OnlySource

/-!
# A source that several tasks refresh

A polled source is refreshed in cycles, by its own loop and by any number of refreshes of its
manager.  In a cycle a task takes the lock of the source, pulls a snapshot, hands the changes to the
manager one by one, and only then releases the lock.  A refresh of the manager ends by merging every
key again, which needs no lock, so that it may fall into the cycle of another task.

In whatever order the steps of all tasks come, what the manager has of the source is what the source
had before the changes that are still to be handed over (`Sound`, `sound_run`).  Hence every change
is published once and as it is, merging every key again publishes nothing, and between cycles the
manager has what the source has (`received_of_run`).
-/

namespace SidecarAgent.Config

open Discovery (DiscoveryError)
open Manager (creations received)

/-! ## Listeners -/

namespace Manager

variable {ι : Type}

/-- Listeners that are registered one after another are numbered from the next number on. -/
theorem listeners_run_listen (m : Manager ι ℕ) (patterns : List String) :
    (m.run (patterns.map .listen)).manager.listeners =
      m.listeners ++ (patterns.map KeyPattern.parse).zipIdx m.listeners.length := by
  induction patterns generalizing m with
  | nil => exact (List.append_nil _).symm
  | cons p rest ih =>
    have hrest := ih (m.listen p m.listeners.length)
    have hlistens : (m.listen p m.listeners.length).listeners =
        m.listeners ++ [(KeyPattern.parse p, m.listeners.length)] := rfl
    rw [hlistens, List.length_append, List.length_singleton] at hrest
    rw [List.map_cons, List.map_cons, List.zipIdx_cons]
    exact hrest.trans (List.append_assoc _ _ _)

/-- Registering listeners leaves the view as it is. -/
theorem view_run_listen (m : Manager ι ℕ) (patterns : List String) :
    (m.run (patterns.map .listen)).manager.view = m.view := by
  induction patterns generalizing m with
  | nil => rfl
  | cons p rest ih => exact ih (m.listen p m.listeners.length)

/-- A manager without sources that has listeners for some patterns. -/
def listening (patterns : List String) : Manager ι ℕ := after (patterns.map .listen)

/-- A listener has the number of the listeners before it. -/
theorem mem_listeners_listening (before behind : List String) (pattern : String) :
    (KeyPattern.parse pattern, before.length) ∈
      (listening (before ++ pattern :: behind) : Manager ι ℕ).listeners := by
  unfold listening after
  rw [listeners_run_listen]
  refine List.mem_append_right _ (List.mem_zipIdx_iff_getElem?.2 ?_)
  rw [List.map_append, List.map_cons, List.getElem?_append_right (by simp)]
  simp

end Manager

/-! ## Steps -/

/-- How far the task is that has the lock of a source: it waits for a snapshot, or has some changes
still to hand to the manager. -/
inductive Stage where
  | pulling
  | handing (rest : List Event)

/-- A manager with a source that tasks refresh, which are numbered: which of them has the lock of
the source, what each of them has still to deliver to listeners, how the pulls in the cycles so far
ended, and what has been delivered. -/
structure SharedSource where
  source : PolledSource
  manager : Manager Unit ℕ
  lock : Option (ℕ × Stage) := none
  undelivered : ℕ → List (ℕ × Event) := fun _ => []
  pulls : List (Except DiscoveryError Snapshot) := []
  delivered : List (ℕ × Event)

namespace SharedSource

/-- What a task can do. -/
inductive Action where
  | acquire
  | pull (result : Except DiscoveryError Snapshot)
  | hand
  | release
  | merge
  | deliver

variable (s : SharedSource) (task : ℕ)

/-- The task that has the lock. -/
def holder? : Option ℕ := s.lock.map Prod.fst

/-- A task takes the lock. -/
def acquire : SharedSource := { s with lock := some (task, .pulling) }

/-- The source takes a snapshot over that a task has pulled.  A task whose pull has failed gives the
lock back. -/
def pull (result : Except DiscoveryError Snapshot) : SharedSource :=
  let (source, changes) := s.source.refresh result
  { s with
    source := source
    lock := changes.toOption.map fun events => (task, .handing events)
    pulls := s.pulls ++ [result] }

/-- A task carries out an operation on the manager, and has then to deliver what that publishes. -/
def perform (effect : Manager.Effect Unit ℕ) : SharedSource :=
  { s with
    manager := effect.manager
    undelivered := Function.update s.undelivered task effect.deliveries }

/-- A task hands a change to the manager, with some more to come. -/
def hand (e : Event) (rest : List Event) : SharedSource :=
  { s.perform task (s.manager.apply e) with lock := some (task, .handing rest) }

/-- The lock is given back. -/
def release : SharedSource := { s with lock := none }

/-- A task merges every key again. -/
def merge : SharedSource := s.perform task (s.manager.replaceAll [])

/-- A task makes a delivery, with some more to come. -/
def deliver (d : ℕ × Event) (rest : List (ℕ × Event)) : SharedSource :=
  { s with
    undelivered := Function.update s.undelivered task rest
    delivered := s.delivered ++ [d] }

/-- The state after a task that has nothing to deliver has done something.  Only the task that has
the lock pulls and hands changes over, and it does not merge meanwhile; what a task cannot do has no
effect. -/
def act (action : Action) : SharedSource :=
  match s.lock, action with
  | none, .acquire => s.acquire task
  | some (holder, .pulling), .pull result => if holder = task then s.pull task result else s
  | some (holder, .handing (e :: rest)), .hand => if holder = task then s.hand task e rest else s
  | some (holder, .handing []), .release => if holder = task then s.release else s
  | _, .merge => if s.holder? = some task then s else s.merge task
  | _, _ => s

/-- The state after a task has done something.  A task first makes its deliveries. -/
def step (action : Action) : SharedSource :=
  match s.undelivered task, action with
  | [], action => s.act task action
  | d :: rest, .deliver => s.deliver task d rest
  | _, _ => s

variable {s task}

/-- What a step can come to. -/
inductive Moves (s : SharedSource) (task : ℕ) : SharedSource → Prop
  | stay : Moves s task s
  | acquire (hlock : s.lock = none) : Moves s task (s.acquire task)
  | pull (hlock : s.lock = some (task, .pulling)) (result : Except DiscoveryError Snapshot) :
    Moves s task (s.pull task result)
  | hand {e : Event} {rest : List Event} (hidle : s.undelivered task = [])
    (hlock : s.lock = some (task, .handing (e :: rest))) : Moves s task (s.hand task e rest)
  | release (hidle : s.undelivered task = []) (hlock : s.lock = some (task, .handing [])) :
    Moves s task s.release
  | merge (hidle : s.undelivered task = []) (hfree : s.holder? ≠ some task) :
    Moves s task (s.merge task)
  | deliver {d : ℕ × Event} {rest : List (ℕ × Event)} (hrest : s.undelivered task = d :: rest) :
    Moves s task (s.deliver task d rest)

/-- What a task with nothing to deliver does comes to one of the moves. -/
theorem moves_act (hidle : s.undelivered task = []) (action : Action) :
    s.Moves task (s.act task action) := by
  unfold act
  split
  · rename_i hlock
    exact .acquire hlock
  · rename_i holder result hlock
    split
    · rename_i heq
      exact .pull (heq ▸ hlock) result
    · exact .stay
  · rename_i holder e rest hlock
    split
    · rename_i heq
      exact .hand hidle (heq ▸ hlock)
    · exact .stay
  · rename_i holder hlock
    split
    · rename_i heq
      exact .release hidle (heq ▸ hlock)
    · exact .stay
  · split
    · exact .stay
    · rename_i hfree
      exact .merge hidle hfree
  · exact .stay

/-- A step comes to one of the moves. -/
theorem moves_step (s : SharedSource) (task : ℕ) (action : Action) :
    s.Moves task (s.step task action) := by
  unfold step
  split
  · rename_i hidle
    exact moves_act hidle _
  · rename_i d rest hrest
    exact .deliver hrest
  · exact .stay

/-- A step pulls only if its task has the lock and waits for a snapshot, and no other is a pull. -/
theorem pulls_step (s : SharedSource) (task : ℕ) (action : Action) :
    (s.step task action).pulls = s.pulls ∨
      ∃ result, action = .pull result ∧ s.lock = some (task, .pulling) ∧
        s.step task action = s.pull task result := by
  unfold step
  split
  · unfold act
    split
    · exact .inl rfl
    · rename_i holder result hlock
      split
      · rename_i heq
        exact .inr ⟨result, rfl, heq ▸ hlock, rfl⟩
      · exact .inl rfl
    · split <;> exact .inl rfl
    · split <;> exact .inl rfl
    · split <;> exact .inl rfl
    · exact .inl rfl
  · exact .inl rfl
  · exact .inl rfl

/-! ## Runs -/

/-- A source begins to be shared when it has been added to a manager with some listeners. -/
def begin (patterns : List String) (name : String) (priority : ℤ)
    (first : Except DiscoveryError Snapshot) : SharedSource :=
  let source : PolledSource := ⟨name, priority, ∅⟩
  let (source, answer) := source.replace first
  let added := (Manager.listening patterns).addSource name priority () answer.toOption
  { source := source, manager := added.manager, delivered := added.deliveries }

/-- The state after some steps of tasks. -/
def run (s : SharedSource) (schedule : List (ℕ × Action)) : SharedSource :=
  schedule.foldl (fun s a => s.step a.1 a.2) s

/-- The snapshots of the pulls that succeeded, one after another. -/
def successes (s : SharedSource) : List Snapshot := s.pulls.filterMap Except.toOption

/-- The changes that are still to be handed to the manager. -/
def pending (s : SharedSource) : List Event :=
  match s.lock with
  | some (_, .handing rest) => rest
  | _ => []

/-- What the listener of a number has still to receive of the changes of a pull. -/
def outstanding (n : ℕ) (s : SharedSource) : List Event :=
  match s.lock with
  | some (task, .handing rest) => received n (s.undelivered task) ++ rest
  | _ => []

/-! ## What a step keeps -/

/-- A shared source is sound when the manager has it, and no other, with the snapshot from which the
changes that are still to be handed over lead to the current one; when only the task that hands
changes over has deliveries to make; and when a listener for every key has received what was
published, or has still to receive it, which is the creations of the first snapshot and the
differences of the successful pulls. -/
structure Sound (n : ℕ) (name : String) (priority : ℤ) (initial : Snapshot) (s : SharedSource) :
    Prop where
  registered : s.source.name = name
  numbered : s.manager.Numbered
  listens : (KeyPattern.parse "*", n) ∈ s.manager.listeners
  resolved : s.manager.view.Resolved
  idle : ∀ task, (∀ rest, s.lock ≠ some (task, .handing rest)) → s.undelivered task = []
  reported : ∀ e ∈ s.pending, e.source = name
  leads : ∃ retained, s.manager.HasOnly ⟨name, priority, (), retained⟩ ∧
    Leads retained s.pending s.source.current
  current : s.source.current = s.successes.getLast?.getD initial
  heard : received n s.delivered ++ s.outstanding n =
    creations name initial ++ differences name initial s.successes

variable {n : ℕ} {name : String} {priority : ℤ} {initial : Snapshot}

/-- Nothing is pending unless changes are handed over. -/
theorem pending_of_not_handing (h : ∀ holder rest, s.lock ≠ some (holder, .handing rest)) :
    s.pending = [] ∧ s.outstanding n = [] := by
  unfold pending outstanding
  split
  · rename_i holder rest hlock
    exact absurd hlock (h holder rest)
  · exact ⟨rfl, rfl⟩

/-- Changes that are handed over are pending. -/
theorem pending_of_handing {rest : List Event} (h : s.lock = some (task, .handing rest)) :
    s.pending = rest ∧ s.outstanding n = received n (s.undelivered task) ++ rest := by
  unfold pending outstanding
  rw [h]
  exact ⟨rfl, rfl⟩

namespace Sound

/-- Only a task that hands changes over has deliveries to make. -/
theorem exists_handing (h : s.Sound n name priority initial) {d : ℕ × Event}
    {rest : List (ℕ × Event)} (hrest : s.undelivered task = d :: rest) :
    ∃ changes, s.lock = some (task, .handing changes) := by
  by_contra hnot
  rw [not_exists] at hnot
  rw [h.idle task hnot] at hrest
  cases hrest

/-- Unless changes are handed over, no task has anything to deliver. -/
theorem undelivered_eq_nil (h : s.Sound n name priority initial)
    (hlock : ∀ holder rest, s.lock ≠ some (holder, .handing rest)) (task : ℕ) :
    s.undelivered task = [] := h.idle task (hlock task)

/-- Where nothing is left to do the lock may change hands. -/
theorem change_lock (h : s.Sound n name priority initial) (hidle : ∀ task, s.undelivered task = [])
    (hpending : s.pending = []) {lock : Option (ℕ × Stage)}
    (hlock : ∀ holder rest, lock ≠ some (holder, .handing rest)) :
    { s with lock := lock }.Sound n name priority initial := by
  have houtstanding : s.outstanding n = [] := by
    unfold outstanding
    unfold pending at hpending
    split
    · rename_i holder rest heq
      rw [heq] at hpending
      dsimp only at hpending
      rw [hidle, hpending]
      rfl
    · rfl
  obtain ⟨hpending', houtstanding'⟩ :=
    pending_of_not_handing (s := { s with lock := lock }) (n := n) hlock
  refine ⟨h.registered, h.numbered, h.listens, h.resolved, fun other _ => hidle other, ?_, ?_,
    h.current, ?_⟩
  · rw [hpending']
    simp
  · rw [hpending', ← hpending]
    exact h.leads
  · rw [houtstanding', ← houtstanding]
    exact h.heard

/-- A failed pull keeps a shared source sound. -/
theorem pull_error (h : s.Sound n name priority initial) (hlock : s.lock = some (task, .pulling))
    (e : DiscoveryError) : (s.pull task (.error e)).Sound n name priority initial := by
  have hnot : ∀ holder rest, s.lock ≠ some (holder, .handing rest) := by
    intro holder rest heq
    rw [hlock] at heq
    cases heq
  have hsuccesses : (s.pull task (.error e)).successes = s.successes := by
    show (s.pulls ++ [Except.error e]).filterMap Except.toOption = s.pulls.filterMap Except.toOption
    rw [List.filterMap_append]
    exact List.append_nil _
  have hreleased : s.release.Sound n name priority initial :=
    h.change_lock (h.undelivered_eq_nil hnot) (pending_of_not_handing (n := n) hnot).1 (by simp)
  refine ⟨h.registered, h.numbered, h.listens, h.resolved, hreleased.idle, hreleased.reported,
    hreleased.leads, ?_, ?_⟩
  · rw [hsuccesses]
    exact h.current
  · rw [hsuccesses]
    exact hreleased.heard

/-- A successful pull keeps a shared source sound.  What the manager has is what the source had so
far, from which the difference leads to the new snapshot. -/
theorem pull_ok (h : s.Sound n name priority initial) (hlock : s.lock = some (task, .pulling))
    (new : Snapshot) : (s.pull task (.ok new)).Sound n name priority initial := by
  have hnot : ∀ holder rest, s.lock ≠ some (holder, .handing rest) := by
    intro holder rest heq
    rw [hlock] at heq
    cases heq
  have hidle := h.undelivered_eq_nil hnot
  obtain ⟨hpending, houtstanding⟩ := pending_of_not_handing (n := n) hnot
  have hlock' : (s.pull task (.ok new)).lock =
      some (task, .handing (diff name s.source.current new)) := by
    rw [← h.registered]
    rfl
  obtain ⟨hpending', houtstanding'⟩ := pending_of_handing (n := n) hlock'
  have hsuccesses : (s.pull task (.ok new)).successes = s.successes ++ [new] := by
    show (s.pulls ++ [Except.ok new]).filterMap Except.toOption = _
    rw [List.filterMap_append]
    rfl
  refine ⟨h.registered, h.numbered, h.listens, h.resolved, fun other _ => hidle other,
    ?_, ?_, ?_, ?_⟩
  · rw [hpending']
    exact fun e he => source_of_mem_diff he
  · obtain ⟨retained, honly, hleads⟩ := h.leads
    rw [hpending] at hleads
    have hretained : retained = s.source.current := hleads.foldl_replay_eq
    rw [hpending']
    exact ⟨retained, honly, hretained ▸ leads_diff name retained new⟩
  · rw [hsuccesses, List.getLast?_concat]
    rfl
  · have hheard := h.heard
    rw [houtstanding, List.append_nil] at hheard
    have hnone : received n ((s.pull task (.ok new)).undelivered task) = [] := by
      show received n (s.undelivered task) = []
      rw [hidle]
      rfl
    rw [houtstanding', hsuccesses, differences_concat, ← h.current, hnone, List.nil_append,
      ← List.append_assoc, ← hheard]
    rfl

/-- Handing a change over keeps a shared source sound: the change is a real one of what the manager
has of the source, so that it is published as it is. -/
theorem hand (h : s.Sound n name priority initial) (hidle : s.undelivered task = []) {e : Event}
    {rest : List Event} (hlock : s.lock = some (task, .handing (e :: rest))) :
    (s.hand task e rest).Sound n name priority initial := by
  obtain ⟨hpending, houtstanding⟩ := pending_of_handing (n := n) hlock
  have hlock' : (s.hand task e rest).lock = some (task, .handing rest) := rfl
  obtain ⟨hpending', houtstanding'⟩ := pending_of_handing (n := n) hlock'
  obtain ⟨retained, honly, hleads⟩ := h.leads
  have hreported := h.reported
  rw [hpending] at hleads hreported
  cases hleads with
  | cons hfits hrest =>
    obtain ⟨v, happlied, hsources, hresolved⟩ :=
      honly.exists_apply h.resolved (hreported e (by simp)) hfits
    have hmanager : (s.hand task e rest).manager = { s.manager with view := v } :=
      congrArg Manager.Effect.manager happlied
    have hundelivered : (s.hand task e rest).undelivered =
        Function.update s.undelivered task (s.manager.dispatch [e]) :=
      congrArg (fun effect : Manager.Effect Unit ℕ =>
        Function.update s.undelivered task effect.deliveries) happlied
    refine ⟨h.registered, ?_, ?_, ?_, fun other hother => ?_, ?_, ⟨e.replay retained, ?_, ?_⟩,
      h.current, ?_⟩
    · rw [hmanager]
      exact h.numbered
    · rw [hmanager]
      exact h.listens
    · rw [hmanager]
      exact hresolved
    · -- `task` itself hands over
      have hne : other ≠ task := by
        rintro rfl
        exact hother rest hlock'
      rw [hundelivered, Function.update_of_ne hne]
      refine h.idle other fun changes heq => hne ?_
      rw [hlock] at heq
      cases heq
      rfl
    · rw [hpending']
      exact fun f hf => hreported f (by simp [hf])
    · rw [hmanager]
      exact hsources
    · rw [hpending']
      exact hrest
    · have hreceived : received n (s.manager.dispatch [e]) = [e] :=
        Manager.received_dispatch_of_mem h.numbered h.listens [e]
      have hheard := h.heard
      rw [houtstanding, hidle] at hheard
      rw [houtstanding', hundelivered, Function.update_self, hreceived]
      exact hheard

/-- Merging every key again has no effect at all. -/
theorem merge_eq (h : s.Sound n name priority initial) (hidle : s.undelivered task = []) :
    s.merge task = s := by
  unfold merge perform
  rw [Manager.replaceAll_nil_of_resolved h.resolved]
  dsimp only
  rw [← hidle, Function.update_eq_self]

/-- Making a delivery keeps a shared source sound. -/
theorem deliver (h : s.Sound n name priority initial) {d : ℕ × Event} {rest : List (ℕ × Event)}
    (hrest : s.undelivered task = d :: rest) :
    (s.deliver task d rest).Sound n name priority initial := by
  obtain ⟨changes, hlock⟩ := h.exists_handing hrest
  have hlock' : (s.deliver task d rest).lock = some (task, .handing changes) := hlock
  obtain ⟨hpending, houtstanding⟩ := pending_of_handing (n := n) hlock
  obtain ⟨hpending', houtstanding'⟩ := pending_of_handing (n := n) hlock'
  have hundelivered :
      (s.deliver task d rest).undelivered = Function.update s.undelivered task rest :=
    rfl
  refine ⟨h.registered, h.numbered, h.listens, h.resolved, fun other hother => ?_, ?_, ?_,
    h.current, ?_⟩
  · have hne : other ≠ task := by
      rintro rfl
      exact hother changes hlock'
    rw [hundelivered, Function.update_of_ne hne]
    exact h.idle other hother
  · rw [hpending', ← hpending]
    exact h.reported
  · rw [hpending', ← hpending]
    exact h.leads
  · have hheard := h.heard
    rw [houtstanding, hrest, ← List.singleton_append, Manager.received_append] at hheard
    have hdelivered : received n (s.deliver task d rest).delivered =
        received n s.delivered ++ received n [d] := Manager.received_append n s.delivered [d]
    rw [houtstanding', hundelivered, Function.update_self, hdelivered, List.append_assoc,
      ← List.append_assoc (received n [d])]
    exact hheard

end Sound

/-- A step keeps a shared source sound. -/
theorem sound_step (h : s.Sound n name priority initial) (task : ℕ) (action : Action) :
    (s.step task action).Sound n name priority initial := by
  have hmoves := s.moves_step task action
  generalize s.step task action = next at hmoves
  cases hmoves with
  | stay => exact h
  | acquire hlock =>
    have hnot : ∀ holder rest, s.lock ≠ some (holder, .handing rest) := by simp [hlock]
    exact h.change_lock (h.undelivered_eq_nil hnot) (pending_of_not_handing (n := n) hnot).1
      (by simp)
  | pull hlock result =>
    cases result with
    | ok new => exact h.pull_ok hlock new
    | error e => exact h.pull_error hlock e
  | hand hidle hlock => exact h.hand hidle hlock
  | release hidle hlock =>
    refine h.change_lock (fun other => ?_) (pending_of_handing (n := n) hlock).1 (by simp)
    by_cases hother : other = task
    · rw [hother, hidle]
    · refine h.idle other fun rest heq => hother ?_
      rw [hlock] at heq
      cases heq
      rfl
  | merge hidle hfree => rwa [h.merge_eq hidle]
  | deliver hrest => exact h.deliver hrest

/-- Steps keep a shared source sound. -/
theorem sound_run (h : s.Sound n name priority initial) (schedule : List (ℕ × Action)) :
    (s.run schedule).Sound n name priority initial := by
  induction schedule generalizing s with
  | nil => exact h
  | cons a rest ih => exact ih (sound_step h a.1 a.2)

/-- How a source begins to be shared. -/
theorem begin_eq (patterns : List String) (name : String) (priority : ℤ)
    (first : Except DiscoveryError Snapshot) :
    let added := (Manager.listening patterns).addSource name priority () first.toOption
    begin patterns name priority first =
      { source := ⟨name, priority, first.toOption.getD ∅⟩
        manager := added.manager
        delivered := added.deliveries } := by
  cases first <;> rfl

/-- A source that is the first one of a manager begins to be shared sound. -/
theorem sound_addSource {m : Manager Unit ℕ} (hview : m.view = {}) (hnumbered : m.Numbered)
    (hlistens : (KeyPattern.parse "*", n) ∈ m.listeners) (name : String) (priority : ℤ)
    (first : Option Snapshot) :
    Sound n name priority (first.getD ∅)
      { source := ⟨name, priority, first.getD ∅⟩
        manager := (m.addSource name priority () first).manager
        delivered := (m.addSource name priority () first).deliveries } := by
  have hsources : m.view.sources = [] := by rw [hview]
  have hresolved : m.view.Resolved := by
    rw [hview]
    exact fun _ => rfl
  refine ⟨rfl, hnumbered, hlistens, View.resolved_register hresolved _, fun _ _ => rfl,
    ?_, ?_, rfl, ?_⟩
  · intro e he
    cases he
  · exact ⟨first.getD ∅, Manager.hasOnly_addSource hsources name priority () first, .nil _⟩
  · have hdeliveries := Manager.deliveries_addSource_first hsources hresolved name priority () first
    dsimp only
    rw [hdeliveries, Manager.received_dispatch_of_mem hnumbered hlistens]
    exact congrArg (· ++ []) (List.filter_eq_self.2 fun e _ => rfl)

/-- A source begins to be shared sound. -/
theorem sound_begin (before behind : List String) (name : String) (priority : ℤ)
    (first : Except DiscoveryError Snapshot) :
    (begin (before ++ "*" :: behind) name priority first).Sound before.length name priority
      (first.toOption.getD ∅) := by
  rw [begin_eq]
  exact sound_addSource (Manager.view_run_listen {} _) (Manager.numbered_after _)
    (Manager.mem_listeners_listening before behind "*") name priority first.toOption

/-! ## Undisturbed tasks -/

/-- A run goes on where the one before it ended. -/
theorem run_append (s : SharedSource) (schedule more : List (ℕ × Action)) :
    s.run (schedule ++ more) = (s.run schedule).run more := List.foldl_append

/-- The steps in which a task makes some deliveries. -/
def deliverSteps (task : ℕ) (ds : List (ℕ × Event)) : List (ℕ × Action) :=
  ds.map fun _ => (task, .deliver)

/-- The steps in which a task hands changes to a manager. -/
def handSteps (task : ℕ) (m : Manager Unit ℕ) : List Event → List (ℕ × Action)
  | [] => []
  | e :: rest =>
    (task, .hand) :: deliverSteps task (m.apply e).deliveries ++
      handSteps task (m.apply e).manager rest

/-- The steps of a cycle whose pull ends in some way. -/
def cycleSteps (s : SharedSource) (task : ℕ) (result : Except DiscoveryError Snapshot) :
    List (ℕ × Action) :=
  let handing := match (s.source.refresh result).2 with
    | .ok events => handSteps task s.manager events ++ [(task, .release)]
    | .error _ => []
  (task, .acquire) :: (task, .pull result) :: handing

/-- The changes of a cycle whose pull ends in some way, none if it fails. -/
def changes (s : SharedSource) (result : Except DiscoveryError Snapshot) : List Event :=
  (s.source.refresh result).2.toOption.getD []

/-- A task makes its deliveries. -/
theorem run_deliverSteps {ds : List (ℕ × Event)} (h : s.undelivered task = ds) :
    s.run (deliverSteps task ds) =
      { s with
        undelivered := Function.update s.undelivered task []
        delivered := s.delivered ++ ds } := by
  induction ds generalizing s with
  | nil =>
    have hsame : Function.update s.undelivered task [] = s.undelivered := by
      rw [← h, Function.update_eq_self]
    rw [hsame, List.append_nil]
    rfl
  | cons d rest ih =>
    have hstep : s.step task .deliver = s.deliver task d rest := by
      unfold step
      rw [h]
    have hrest : (s.deliver task d rest).undelivered task = rest := by
      unfold deliver
      dsimp only
      rw [Function.update_self]
    show (s.step task .deliver).run (deliverSteps task rest) = _
    rw [hstep, ih hrest]
    unfold deliver
    dsimp only
    rw [Function.update_idem, List.append_assoc]
    rfl

/-- A task carries an operation on the manager out, and makes the deliveries. -/
theorem run_deliverSteps_perform (hidle : s.undelivered task = [])
    (effect : Manager.Effect Unit ℕ) :
    (s.perform task effect).run (deliverSteps task effect.deliveries) =
      { s with manager := effect.manager, delivered := s.delivered ++ effect.deliveries } := by
  have hundelivered : (s.perform task effect).undelivered task = effect.deliveries := by
    unfold perform
    dsimp only
    rw [Function.update_self]
  have hsame : Function.update s.undelivered task [] = s.undelivered := by
    rw [← hidle, Function.update_eq_self]
  rw [run_deliverSteps hundelivered]
  unfold perform
  dsimp only
  rw [Function.update_idem, hsame]

/-- A task that has changes to hand over hands them over as the manager applies them. -/
theorem run_handSteps {es : List Event} (hidle : s.undelivered task = [])
    (hlock : s.lock = some (task, .handing es)) :
    s.run (handSteps task s.manager es) =
      { s with
        manager := (s.manager.applyAll es).manager
        lock := some (task, .handing [])
        delivered := s.delivered ++ (s.manager.applyAll es).deliveries } := by
  induction es generalizing s with
  | nil =>
    rw [← hlock]
    show s = { s with delivered := s.delivered ++ [] }
    rw [List.append_nil]
  | cons e rest ih =>
    have hstep : s.step task .hand = s.hand task e rest := by
      unfold step act
      rw [hidle, hlock]
      exact if_pos rfl
    have hdelivered : (s.hand task e rest).run (deliverSteps task (s.manager.apply e).deliveries) =
        { s with
          manager := (s.manager.apply e).manager
          lock := some (task, .handing rest)
          delivered := s.delivered ++ (s.manager.apply e).deliveries } :=
      run_deliverSteps_perform (s := { s with lock := some (task, .handing rest) }) hidle _
    have hrest := ih (s := { s with
      manager := (s.manager.apply e).manager
      lock := some (task, .handing rest)
      delivered := s.delivered ++ (s.manager.apply e).deliveries }) hidle rfl
    show (s.step task .hand).run (deliverSteps task (s.manager.apply e).deliveries ++ _) = _
    rw [hstep, run_append, hdelivered, hrest, Manager.applyAll]
    dsimp only
    rw [List.append_assoc]

/-- A cycle that no other task disturbs takes the result of its pull over, and has the manager apply
the changes. -/
theorem run_cycleSteps (hidle : s.undelivered task = []) (hlock : s.lock = none)
    (result : Except DiscoveryError Snapshot) :
    s.run (s.cycleSteps task result) =
      { s with
        source := (s.source.refresh result).1
        manager := (s.manager.applyAll (s.changes result)).manager
        pulls := s.pulls ++ [result]
        delivered := s.delivered ++ (s.manager.applyAll (s.changes result)).deliveries } := by
  have hacquire : s.step task .acquire = s.acquire task := by
    unfold step act
    rw [hidle, hlock]
  have hpull : (s.acquire task).step task (.pull result) = (s.acquire task).pull task result := by
    unfold step act
    have hidle' : (s.acquire task).undelivered task = [] := hidle
    rw [hidle']
    exact if_pos rfl
  cases result with
  | error e =>
    show ((s.step task .acquire).step task (.pull (.error e))) = _
    rw [hacquire, hpull]
    show { s with lock := none, pulls := s.pulls ++ [_] } =
      { s with pulls := s.pulls ++ [_], delivered := s.delivered ++ [] }
    rw [List.append_nil, hlock]
  | ok new =>
    have hpulled : ((s.acquire task).pull task (.ok new)).lock =
        some (task, .handing (diff s.source.name s.source.current new)) := rfl
    have hidle' : ((s.acquire task).pull task (.ok new)).undelivered task = [] := hidle
    have hhands := run_handSteps hidle' hpulled
    have hrelease : ∀ t : SharedSource, t.undelivered task = [] →
        t.lock = some (task, .handing []) → t.step task .release = t.release := by
      intro t htidle htlock
      unfold step act
      rw [htidle, htlock]
      exact if_pos rfl
    show ((s.step task .acquire).step task (.pull (.ok new))).run
      (handSteps task s.manager (diff s.source.name s.source.current new) ++ [_]) = _
    rw [hacquire, hpull, run_append]
    show ((((s.acquire task).pull task (.ok new)).run
      (handSteps task ((s.acquire task).pull task (.ok new)).manager _)).step task .release) = _
    rw [hhands, hrelease]
    · show { s with source := _, manager := _, lock := none, pulls := _, delivered := _ } = _
      rw [← hlock]
      rfl
    · exact hidle
    · rfl

/-- A task merges every key again, and makes the deliveries. -/
theorem run_mergeSteps (hidle : s.undelivered task = []) (hlock : s.lock = none) :
    s.run ((task, .merge) :: deliverSteps task (s.manager.replaceAll []).deliveries) =
      { s with
        manager := (s.manager.replaceAll []).manager
        delivered := s.delivered ++ (s.manager.replaceAll []).deliveries } := by
  have hmerge : s.step task .merge = s.perform task (s.manager.replaceAll []) := by
    unfold step act holder?
    rw [hidle, hlock]
    exact if_neg nofun
  show (s.step task .merge).run (deliverSteps task _) = _
  rw [hmerge, run_deliverSteps_perform hidle]

/-- What the source answers its manager in a refresh whose pull ends in some way. -/
def answer (s : SharedSource) (result : Except DiscoveryError Snapshot) : Answer :=
  match (s.source.refresh result).2 with
  | .ok events => .changed events
  | .error _ => .failed

/-- The steps of a refresh of the manager: those of a cycle, and that of merging every key again. -/
def refreshSteps (s : SharedSource) (task : ℕ) (result : Except DiscoveryError Snapshot) :
    List (ℕ × Action) :=
  let merged := (s.manager.applyAll (s.changes result)).manager.replaceAll []
  s.cycleSteps task result ++ (task, .merge) :: deliverSteps task merged.deliveries

/-- A refresh of the manager that no other task disturbs is a refresh of the manager. -/
theorem run_refreshSteps {r : Registered Unit} (hidle : s.undelivered task = [])
    (hlock : s.lock = none)
    (honly : s.manager.HasOnly r) (result : Except DiscoveryError Snapshot) :
    let effect := s.manager.refresh fun _ => s.answer result
    s.run (s.refreshSteps task result) =
      { s with
        source := (s.source.refresh result).1
        manager := effect.manager
        pulls := s.pulls ++ [result]
        delivered := s.delivered ++ effect.deliveries } := by
  have hsources : s.manager.view.sources = [r] := honly
  have hrefresh : (s.manager.refresh fun _ => s.answer result).manager =
      ((s.manager.applyAll (s.changes result)).manager.replaceAll []).manager ∧
      (s.manager.refresh fun _ => s.answer result).deliveries =
        (s.manager.applyAll (s.changes result)).deliveries ++
          ((s.manager.applyAll (s.changes result)).manager.replaceAll []).deliveries := by
    unfold Manager.refresh
    rw [hsources]
    cases result with
    | ok new => exact ⟨rfl, rfl⟩
    | error e => exact ⟨rfl, rfl⟩
  intro effect
  unfold refreshSteps
  dsimp only
  rw [run_append, run_cycleSteps hidle hlock, hrefresh.1, hrefresh.2, ← List.append_assoc]
  exact run_mergeSteps (s := { s with
    source := (s.source.refresh result).1
    manager := (s.manager.applyAll (s.changes result)).manager
    pulls := s.pulls ++ [result]
    delivered := s.delivered ++ (s.manager.applyAll (s.changes result)).deliveries }) hidle hlock

/-! ## What is received -/

/-- However tasks refresh a source, a listener for every key that was registered before the source
was added has received at any time, with what it has still to receive in the current cycle, exactly
the creations of the first snapshot and the differences between the snapshots that were pulled, in
their order and each once.  Merging every key again has no effect at any time, and no task but the
one that hands changes over has anything to deliver.  While no task has the lock, nothing is left to
be received, and the manager has of its one source, and as its merged values, what the source has,
which is what was pulled last.

What was pulled is what tasks that have the lock have pulled, and no other step adds to it.  A cycle
that no task disturbs adds what it pulls, and to what was delivered what the manager makes of the
changes. -/
theorem received_of_run (before behind : List String) (name : String) (priority : ℤ)
    (first : Except DiscoveryError Snapshot) (schedule : List (ℕ × Action)) :
    let s := (begin (before ++ "*" :: behind) name priority first).run schedule
    let initial := first.toOption.getD ∅
    received before.length s.delivered ++ s.outstanding before.length =
      creations name initial ++ differences name initial s.successes ∧
    (s.manager.replaceAll [] = ⟨s.manager, [], []⟩ ∧
      ∀ task, s.holder? ≠ some task → s.undelivered task = []) ∧
    (s.lock = none →
      received before.length s.delivered =
        creations name initial ++ differences name initial s.successes ∧
      s.manager.view.sources = [⟨name, priority, (), s.source.current⟩] ∧
      s.manager.view.values = s.source.current ∧
      s.source.current = s.successes.getLast?.getD initial) ∧
    (∀ task action, (s.step task action).pulls = s.pulls ∨
      ∃ result, action = .pull result ∧ s.lock = some (task, .pulling) ∧
        s.step task action = s.pull task result) ∧
    ∀ task result, s.lock = none →
      s.run (s.cycleSteps task result) =
        { s with
          source := (s.source.refresh result).1
          manager := (s.manager.applyAll (s.changes result)).manager
          pulls := s.pulls ++ [result]
          delivered := s.delivered ++ (s.manager.applyAll (s.changes result)).deliveries } := by
  intro s initial
  have hsound : s.Sound before.length name priority initial :=
    sound_run (sound_begin before behind name priority first) schedule
  refine ⟨hsound.heard, ⟨?_, fun task htask => ?_⟩, fun hlock => ?_, s.pulls_step,
    fun task result hlock => ?_⟩
  · exact Manager.replaceAll_nil_of_resolved hsound.resolved
  · refine hsound.idle task fun rest heq => htask ?_
    unfold holder?
    rw [heq]
    rfl
  · have hnot : ∀ holder rest, s.lock ≠ some (holder, .handing rest) := by simp [hlock]
    obtain ⟨hpending, houtstanding⟩ := pending_of_not_handing (n := before.length) hnot
    obtain ⟨retained, honly, hleads⟩ := hsound.leads
    rw [hpending] at hleads
    have hretained : retained = s.source.current := hleads.foldl_replay_eq
    rw [hretained] at honly
    have hheard := hsound.heard
    rw [houtstanding, List.append_nil] at hheard
    exact ⟨hheard, honly, honly.values_eq hsound.resolved, hsound.current⟩
  · exact run_cycleSteps (hsound.idle task (by simp [hlock])) hlock result

/-- A snapshot with one value under each of some keys. -/
def sample (keys : List String) : Snapshot := KeyMap.ofList (keys.map fun k => (k, .raw []))

-- A second task merges every key again between the two changes that the first one hands over, and
-- then pulls what the first one has pulled before.
example :
    (((begin ["*"] "source" 10 (.ok (sample ["a"]))).run
      [(0, .acquire), (0, .pull (.ok (sample ["b"]))), (0, .hand), (1, .merge), (1, .acquire),
        (0, .deliver), (0, .hand), (0, .deliver), (0, .release), (1, .acquire),
        (1, .pull (.ok (sample ["b"]))), (1, .release), (1, .merge)]).delivered.map Prod.snd) =
      [⟨"source", "a", .create (.raw [])⟩, ⟨"source", "b", .create (.raw [])⟩,
        ⟨"source", "a", .delete⟩] := by
  decide

end SharedSource

end SidecarAgent.Config
