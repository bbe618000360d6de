import Mathlib.Data.List.Perm.Basic
import SidecarAgent.Proofs.ListenerReplay

/-!
# Sources that report at the same time

A task that applies an event first enters it into the manager, and then makes the deliveries that
come of that one by one.  Without interruption this is what the manager does by itself
(`run_apply`).  But between these steps other tasks may do the same, so that deliveries may come in
another order than the changes that they are about.

Every change that is published reaches a listener for every key once (`Sound`, `sound_run`).  Under
a key the listener comes to have the value that it received last, whereas the merged value is the
one that was published last (`last_received_wins`).  The two are the same if no change under the key
is published while another one under it is still to be delivered (`Apart`, `inOrder_run`), and may
be different otherwise (`overtaken_by_earlier`).
-/

namespace SidecarAgent.Config

open Manager (after foldl_replay_heard heard received)

universe u

variable {ι : Type u}

namespace Manager

/-- What is published when an event is entered. -/
def publishes (m : Manager ι ℕ) (e : Event) : List Event :=
  (m.applyMergings e).flatMap Merging.events

/-- What is published when an event is entered is about its key. -/
theorem key_of_mem_publishes {m : Manager ι ℕ} {e f : Event} (hf : f ∈ m.publishes e) :
    f.key = e.key := by
  unfold publishes applyMergings at hf
  split at hf
  · rw [List.flatMap_singleton, View.keyMerging_events, Option.mem_toList] at hf
    exact View.key_of_transition? hf
  · cases hf

end Manager

/-! ## Steps -/

/-- A manager that tasks apply events to, which are numbered: the deliveries that are still to be
made, each with its task and in the order of the changes; what has been delivered; and what has been
published. -/
structure ConcurrentManager (ι : Type u) where
  manager : Manager ι ℕ
  due : List (ℕ × ℕ × Event) := []
  delivered : List (ℕ × Event) := []
  published : List Event := []

namespace ConcurrentManager

/-- What a task can do: enter an event, or make its next delivery. -/
inductive Move where
  | enter (task : ℕ) (e : Event)
  | deliver (task : ℕ)

variable (s : ConcurrentManager ι)

/-- A task has made all its deliveries. -/
def Idle (task : ℕ) : Prop := ∀ d ∈ s.due, d.1 ≠ task

instance (task : ℕ) : Decidable (s.Idle task) :=
  inferInstanceAs (Decidable (∀ d ∈ s.due, d.1 ≠ task))

/-- A task enters an event, and has then to deliver what that publishes. -/
def enter (task : ℕ) (e : Event) : ConcurrentManager ι :=
  { s with
    manager := (s.manager.apply e).manager
    due := s.due ++ (s.manager.apply e).deliveries.map fun d => (task, d)
    published := s.published ++ s.manager.publishes e }

/-- A task makes its next delivery, if it has one to make. -/
def deliver (task : ℕ) : ConcurrentManager ι :=
  match s.due.find? fun d => d.1 = task with
  | none => s
  | some d =>
    { s with
      due := s.due.eraseP fun d => d.1 = task
      delivered := s.delivered ++ [d.2] }

/-- The state after a move.  A task first makes its deliveries. -/
def step : Move → ConcurrentManager ι
  | .enter task e => if s.Idle task then s.enter task e else s
  | .deliver task => s.deliver task

/-- The state after some moves. -/
def run (schedule : List Move) : ConcurrentManager ι := schedule.foldl step s

/-- What the listener of a number has still to receive. -/
def outstanding (n : ℕ) : List Event := received n (s.due.map Prod.snd)

variable {s}

/-- A task makes the first delivery that is due of it. -/
theorem deliver_eq {task : ℕ} {first rest : List (ℕ × ℕ × Event)} {d : ℕ × Event}
    (hsplit : s.due = first ++ (task, d) :: rest) (hfirst : ∀ f ∈ first, f.1 ≠ task) :
    s.deliver task = { s with due := first ++ rest, delivered := s.delivered ++ [d] } := by
  have hothers : ∀ f ∈ first, ¬ decide (f.1 = task) = true := by simpa using hfirst
  have hfind : s.due.find? (fun d => d.1 = task) = some (task, d) :=
    List.find?_eq_some_iff_append.2 ⟨by simp, first, rest, hsplit, by simpa using hfirst⟩
  have herase : s.due.eraseP (fun d => d.1 = task) = first ++ rest := by
    rw [hsplit, List.eraseP_append_right _ hothers, List.eraseP_cons_of_pos (by simp)]
  unfold deliver
  rw [hfind]
  dsimp only
  rw [herase]

/-- A task makes the first delivery that is due of it, if there is one, and otherwise does nothing.
-/
theorem deliver_cases (s : ConcurrentManager ι) (task : ℕ) :
    s.deliver task = s ∨ ∃ first d rest, s.due = first ++ (task, d) :: rest ∧
      (∀ f ∈ first, f.1 ≠ task) ∧
      s.deliver task = { s with due := first ++ rest, delivered := s.delivered ++ [d] } := by
  cases hfind : s.due.find? fun d => d.1 = task with
  | none =>
    unfold deliver
    rw [hfind]
    exact .inl rfl
  | some found =>
    obtain ⟨hfound, first, rest, hsplit, hfirst⟩ := List.find?_eq_some_iff_append.1 hfind
    obtain ⟨owner, d⟩ := found
    obtain rfl : owner = task := of_decide_eq_true hfound
    have hothers : ∀ f ∈ first, f.1 ≠ owner := fun f hf => by simpa using hfirst f hf
    exact .inr ⟨first, d, rest, hsplit, hothers, deliver_eq hsplit hothers⟩

/-- What is due after a delivery was due before. -/
theorem due_deliver_subset (s : ConcurrentManager ι) (task : ℕ) : (s.deliver task).due ⊆ s.due := by
  unfold deliver
  split
  · exact List.Subset.refl _
  · exact List.eraseP_subset

/-- What is due after a task has entered an event was due before, or is due of this task, under a
key that the event publishes. -/
theorem mem_due_enter {task : ℕ} {e : Event} {d : ℕ × ℕ × Event} (hd : d ∈ (s.enter task e).due) :
    d ∈ s.due ∨ d.1 = task ∧ d.2.2.key ∈ (s.manager.publishes e).map Event.key := by
  refine (List.mem_append.1 hd).imp_right fun hnew => ?_
  obtain ⟨g, hg, rfl⟩ := List.mem_map.1 hnew
  rw [(s.manager.explains_apply e).deliveries] at hg
  obtain ⟨f, hf, hmem⟩ := List.mem_flatMap.1 hg
  obtain ⟨l, -, rfl⟩ := List.mem_map.1 hmem
  exact ⟨rfl, List.mem_map_of_mem hf⟩

/-- A property that no move of a run takes away holds after the run. -/
theorem run_induction {P : ConcurrentManager ι → Prop} (hs : P s)
    (hstep : ∀ s move, P s → P (s.step move)) (schedule : List Move) : P (s.run schedule) := by
  induction schedule generalizing s with
  | nil => exact hs
  | cons move rest ih => exact ih (hstep s move hs)

/-! ## What a listener receives -/

/-- A state is sound for a listener for every key when the listener is registered, what was
published leads from the merged values at the start to the current ones, and the listener has
received it, or has still to receive it. -/
structure Sound (n : ℕ) (initial : Snapshot) (s : ConcurrentManager ι) : Prop where
  numbered : s.manager.Numbered
  listens : (KeyPattern.parse "*", n) ∈ s.manager.listeners
  leads : Leads initial s.published s.manager.view.values
  received : (received n s.delivered ++ s.outstanding n).Perm s.published

variable {n : ℕ} {initial : Snapshot}

/-- Entering an event makes what it publishes outstanding. -/
theorem outstanding_enter (hnumbered : s.manager.Numbered)
    (hlistens : (KeyPattern.parse "*", n) ∈ s.manager.listeners) (task : ℕ) (e : Event) :
    (s.enter task e).outstanding n = s.outstanding n ++ s.manager.publishes e := by
  have hdeliveries : (s.manager.apply e).deliveries = s.manager.dispatch (s.manager.publishes e) :=
    (s.manager.explains_apply e).deliveries
  unfold outstanding enter
  dsimp only
  rw [List.map_append, List.map_map, Manager.received_append, hdeliveries]
  show _ ++ received n ((s.manager.dispatch _).map id) = _
  rw [List.map_id, Manager.received_dispatch_star hnumbered hlistens]

/-- What is outstanding when a task has a delivery to make. -/
theorem outstanding_split {first rest : List (ℕ × ℕ × Event)} {task : ℕ} {d : ℕ × Event}
    (hsplit : s.due = first ++ (task, d) :: rest) :
    s.outstanding n = received n (first.map Prod.snd) ++
      (received n [d] ++ received n (rest.map Prod.snd)) := by
  unfold outstanding
  rw [hsplit, List.map_append, List.map_cons, ← List.singleton_append, Manager.received_append,
    Manager.received_append]

namespace Sound

/-- Entering an event keeps a state sound. -/
theorem enter (h : s.Sound n initial) (task : ℕ) (e : Event) :
    (s.enter task e).Sound n initial := by
  have hexplains := s.manager.explains_apply e
  have hlisteners : (s.enter task e).manager.listeners = s.manager.listeners :=
    hexplains.listeners
  refine ⟨?_, hlisteners ▸ h.listens, h.leads.append hexplains.passes.leads, ?_⟩
  · unfold Manager.Numbered
    rw [hlisteners]
    exact h.numbered
  · rw [outstanding_enter h.numbered h.listens, ← List.append_assoc]
    exact h.received.append_right _

/-- A delivery keeps a state sound. -/
theorem deliver (h : s.Sound n initial) (task : ℕ) : (s.deliver task).Sound n initial := by
  rcases s.deliver_cases task with hstay | ⟨first, d, rest, hsplit, -, hdeliver⟩
  · rwa [hstay]
  · have hreceived := h.received
    rw [outstanding_split hsplit] at hreceived
    rw [hdeliver]
    refine ⟨h.numbered, h.listens, h.leads, List.Perm.trans ?_ hreceived⟩
    show (Manager.received n (s.delivered ++ [d]) ++
      Manager.received n ((first ++ rest).map Prod.snd)).Perm _
    rw [Manager.received_append, List.map_append, Manager.received_append, List.append_assoc]
    exact List.Perm.append_left _ (List.perm_append_comm_assoc _ _ _)

end Sound

/-- A move keeps a state sound. -/
theorem sound_step (h : s.Sound n initial) (move : Move) : (s.step move).Sound n initial := by
  cases move with
  | enter task e =>
    show (if s.Idle task then s.enter task e else s).Sound n initial
    split
    · exact h.enter task e
    · exact h
  | deliver task => exact h.deliver task

/-- A run keeps a state sound. -/
theorem sound_run (h : s.Sound n initial) (schedule : List Move) :
    (s.run schedule).Sound n initial :=
  run_induction h (fun _ move hs => sound_step hs move) schedule

/-! ## Keys under which nothing is overtaken -/

/-- A move publishes nothing under a key while something under the key is still to be delivered. -/
def Clear (k : String) (s : ConcurrentManager ι) : Move → Prop
  | .enter task e =>
    s.Idle task → k ∈ (s.manager.publishes e).map Event.key → ∀ d ∈ s.due, d.2.2.key ≠ k
  | .deliver _ => True

instance (k : String) (s : ConcurrentManager ι) : (move : Move) → Decidable (Clear k s move)
  | .enter task e => inferInstanceAs (Decidable
      (s.Idle task → k ∈ (s.manager.publishes e).map Event.key → ∀ d ∈ s.due, d.2.2.key ≠ k))
  | .deliver _ => inferInstanceAs (Decidable True)

/-- The changes under a key are apart in a schedule: none is published while another one is still to
be delivered. -/
def Apart (k : String) : ConcurrentManager ι → List Move → Prop
  | _, [] => True
  | s, move :: rest => Clear k s move ∧ Apart k (s.step move) rest

instance decidableApart (k : String) :
    (s : ConcurrentManager ι) → (schedule : List Move) → Decidable (Apart k s schedule)
  | _, [] => inferInstanceAs (Decidable True)
  | s, move :: rest =>
    have := decidableApart k (s.step move) rest
    inferInstanceAs (Decidable (Clear k s move ∧ Apart k (s.step move) rest))

/-- What is published under a key is in order when at most one task has deliveries under the key to
make, and the listener has received, and is still to receive, what was published under the key in
the order in which it was published. -/
structure InOrder (n : ℕ) (k : String) (s : ConcurrentManager ι) : Prop where
  alone : ∀ d ∈ s.due, ∀ f ∈ s.due, d.2.2.key = k → f.2.2.key = k → d.1 = f.1
  ordered : (received n s.delivered ++ s.outstanding n).filter (fun e => e.key = k) =
    s.published.filter fun e => e.key = k

/-- Nothing under a key is received where nothing under the key is delivered. -/
theorem filter_received_eq_nil {k : String} {ds : List (ℕ × Event)} (h : ∀ d ∈ ds, d.2.key ≠ k) :
    (received n ds).filter (fun e => e.key = k) = [] := by
  rw [List.filter_eq_nil_iff]
  intro e he
  obtain ⟨d, hd, rfl⟩ := List.mem_map.1 he
  simpa using h d (List.mem_filter.1 hd).1

namespace InOrder

variable {k : String}

/-- Entering an event keeps what is published under a key in order, if nothing is published under
the key while something under it is still to be delivered. -/
theorem enter (h : s.InOrder n k) (hsound : s.Sound n initial) {task : ℕ} {e : Event}
    (hclear : k ∈ (s.manager.publishes e).map Event.key → ∀ d ∈ s.due, d.2.2.key ≠ k) :
    (s.enter task e).InOrder n k := by
  refine ⟨fun d hd f hf hdkey hfkey => ?_, ?_⟩
  · -- either nothing under the key was to be delivered, or nothing is added to it
    rcases mem_due_enter hd with hd | ⟨hdtask, hdnew⟩ <;>
      rcases mem_due_enter hf with hf | ⟨hftask, hfnew⟩
    · exact h.alone d hd f hf hdkey hfkey
    · exact absurd hdkey (hclear (hfkey ▸ hfnew) d hd)
    · exact absurd hfkey (hclear (hdkey ▸ hdnew) f hf)
    · rw [hdtask, hftask]
  · rw [outstanding_enter hsound.numbered hsound.listens, ← List.append_assoc, List.filter_append]
    show List.filter _ (received n s.delivered ++ s.outstanding n) ++ _ =
      (s.published ++ s.manager.publishes e).filter _
    rw [h.ordered, List.filter_append]

/-- A delivery keeps what is published under a key in order. -/
theorem deliver (h : s.InOrder n k) (task : ℕ) : (s.deliver task).InOrder n k := by
  have hsubset := s.due_deliver_subset task
  refine ⟨fun d hd f hf => h.alone d (hsubset hd) f (hsubset hf), ?_⟩
  rcases s.deliver_cases task with hstay | ⟨first, d, rest, hsplit, hfirst, hdeliver⟩
  · rw [hstay]
    exact h.ordered
  · have hordered := h.ordered
    rw [outstanding_split hsplit] at hordered
    rw [hdeliver]
    show (received n (s.delivered ++ [d]) ++
      received n ((first ++ rest).map Prod.snd)).filter _ = s.published.filter _
    rw [← hordered, Manager.received_append, List.map_append, Manager.received_append]
    simp only [List.filter_append, List.append_assoc]
    -- the delivery is not under the key, or no delivery before it is
    by_cases hkey : d.2.key = k
    · have hbefore : ∀ f ∈ first.map Prod.snd, f.2.key ≠ k := by
        intro f hf hfkey
        obtain ⟨g, hg, rfl⟩ := List.mem_map.1 hf
        exact hfirst g hg
          (h.alone g (by simp [hsplit, hg]) (task, d) (by simp [hsplit]) hfkey hkey)
      rw [filter_received_eq_nil hbefore, List.nil_append, List.nil_append]
    · have hnothing : ∀ f ∈ [d], f.2.key ≠ k := by simpa using hkey
      rw [filter_received_eq_nil hnothing, List.nil_append, List.nil_append]

end InOrder

/-- A clear move keeps what is published under a key in order. -/
theorem inOrder_step {k : String} (hsound : s.Sound n initial) (h : s.InOrder n k) {move : Move}
    (hclear : Clear k s move) : (s.step move).InOrder n k := by
  cases move with
  | enter task e =>
    show (if s.Idle task then s.enter task e else s).InOrder n k
    split
    · rename_i hidle
      exact h.enter hsound (hclear hidle)
    · exact h
  | deliver task => exact h.deliver task

/-- A run in which the changes under a key are apart keeps them in order. -/
theorem inOrder_run {k : String} (hsound : s.Sound n initial) (h : s.InOrder n k)
    {schedule : List Move} (hapart : Apart k s schedule) : (s.run schedule).InOrder n k := by
  induction schedule generalizing s with
  | nil => exact h
  | cons move rest ih =>
    exact ih (sound_step hsound move) (inOrder_step hsound h hapart.1) hapart.2

/-- Only one task enters events on a key. -/
def OneTask (k : String) (task : ℕ) (schedule : List Move) : Prop :=
  ∀ other e, .enter other e ∈ schedule → e.key = k → other = task

/-- If only one task enters events on a key, the changes under the key are apart. -/
theorem apart_of_oneTask {k : String} {task : ℕ} {schedule : List Move}
    (hone : OneTask k task schedule) (hdue : ∀ d ∈ s.due, d.2.2.key = k → d.1 = task) :
    Apart k s schedule := by
  induction schedule generalizing s with
  | nil => trivial
  | cons move rest ih =>
    have hrest : OneTask k task rest := fun other e he => hone other e (List.mem_cons_of_mem _ he)
    cases move with
    | deliver other =>
      exact ⟨trivial, ih hrest fun d hd => hdue d (s.due_deliver_subset other hd)⟩
    | enter other e =>
      -- whatever the event publishes under the key, it is the one task that does so
      have hother : k ∈ (s.manager.publishes e).map Event.key → other = task := by
        intro hpublished
        obtain ⟨f, hf, hfkey⟩ := List.mem_map.1 hpublished
        exact hone other e List.mem_cons_self ((Manager.key_of_mem_publishes hf).symm.trans hfkey)
      refine ⟨fun hidle hpublished d hd hkey => ?_, ih hrest ?_⟩
      · exact hidle d hd ((hdue d hd hkey).trans (hother hpublished).symm)
      · show ∀ d ∈ (if s.Idle other then s.enter other e else s).due, _
        split
        · intro d hd hkey
          rcases mem_due_enter hd with hd | ⟨hdtask, hnew⟩
          · exact hdue d hd hkey
          · exact hdtask.trans (hother (hkey ▸ hnew))
        · exact hdue

/-! ## Runs -/

/-- Tasks begin to apply events to a manager. -/
def begin (m : Manager ι ℕ) : ConcurrentManager ι := { manager := m }

/-- A task that is not interrupted makes all its deliveries. -/
theorem run_deliver {task : ℕ} (hidle : s.Idle task) (ds : List (ℕ × Event)) :
    ({ s with due := s.due ++ ds.map fun d => (task, d) } : ConcurrentManager ι).run
        (List.replicate ds.length (.deliver task)) =
      { s with delivered := s.delivered ++ ds } := by
  induction ds generalizing s with
  | nil =>
    rw [List.map_nil, List.append_nil, List.append_nil]
    rfl
  | cons d rest ih =>
    have hsplit : s.due ++ (d :: rest).map (fun d => (task, d)) =
        s.due ++ (task, d) :: rest.map fun d => (task, d) := rfl
    have hdeliver := deliver_eq
      (s := { s with due := s.due ++ (d :: rest).map fun d => (task, d) }) hsplit hidle
    have hrest := ih (s := { s with delivered := s.delivered ++ [d] }) hidle
    rw [List.length_cons, List.replicate_succ]
    show (ConcurrentManager.deliver _ task).run _ = _
    rw [hdeliver, hrest, List.append_assoc, List.singleton_append]

/-- A task that is not interrupted applies an event as a whole: it changes the manager, and
delivers, as applying the event does. -/
theorem run_apply {task : ℕ} (hidle : s.Idle task) (e : Event) :
    s.run (.enter task e :: List.replicate (s.manager.apply e).deliveries.length (.deliver task)) =
      { s with
        manager := (s.manager.apply e).manager
        delivered := s.delivered ++ (s.manager.apply e).deliveries
        published := s.published ++ s.manager.publishes e } := by
  have henter : s.step (.enter task e) = s.enter task e := if_pos hidle
  show (s.step (.enter task e)).run _ = _
  rw [henter]
  exact run_deliver (s := { s with
    manager := (s.manager.apply e).manager
    published := s.published ++ s.manager.publishes e }) hidle _

/-- When tasks begin, the state is sound for a listener for every key that is registered. -/
theorem sound_begin (before later : List (Operation ι)) :
    (begin (after (before ++ .listen "*" :: later))).Sound (after before).listeners.length
      (after (before ++ .listen "*" :: later)).view.values :=
  ⟨Manager.numbered_after _, Manager.mem_listeners_after before "*" later, .nil _, List.Perm.refl _⟩

/-- When tasks begin, nothing is published yet. -/
theorem inOrder_begin (m : Manager ι ℕ) (n : ℕ) (k : String) : (begin m).InOrder n k :=
  ⟨(fun _ hd => by cases hd), rfl⟩

/-- Let a listener for every key be registered in a run before any source is, and let tasks then
apply events in any order of their steps until all deliveries are made.  The listener has received
everything that was published once.  Replaying all that it ever received gives every key the value
of the event about the key that it received last, while the merged value is that of the event about
the key that was published last.  Under every key whose changes are apart the two are the same, and
so they are under all keys if no key is changed by two tasks. -/
theorem last_received_wins (before later : List (Operation ι))
    (hbefore : ∀ op ∈ before, op.registration? = none) (schedule : List Move)
    (hfinished : ((begin (after (before ++ .listen "*" :: later))).run schedule).due = []) :
    let start := begin (after (before ++ .listen "*" :: later))
    let s := start.run schedule
    let got := received (after before).listeners.length s.delivered
    let replayed := (heard before "*" later ++ got).foldl Event.replay ∅
    got.Perm s.published ∧
    (∀ k,
      replayed.get? k = ((lastAbout k got).map fun e => e.change.value?).getD
        (start.manager.view.values.get? k) ∧
      s.manager.view.values.get? k = ((lastAbout k s.published).map fun e => e.change.value?).getD
        (start.manager.view.values.get? k)) ∧
    (∀ k, Apart k start schedule → replayed.get? k = s.manager.view.values.get? k) ∧
    ((∀ k, ∃ task, OneTask k task schedule) → replayed = s.manager.view.values) := by
  intro start s got replayed
  have hstart := sound_begin before later
  have hsound := sound_run hstart schedule
  have hnothing : s.outstanding (after before).listeners.length = [] := by
    unfold outstanding
    rw [hfinished]
    rfl
  have hreplayed : replayed = got.foldl Event.replay start.manager.view.values := by
    show (_ ++ got).foldl Event.replay ∅ = _
    rw [List.foldl_append, foldl_replay_heard hbefore]
    rfl
  have hvalues : s.published.foldl Event.replay start.manager.view.values = s.manager.view.values :=
    hsound.leads.foldl_replay_eq
  have hsame : ∀ k, Apart k start schedule →
      replayed.get? k = s.manager.view.values.get? k := by
    intro k hapart
    have hordered := (inOrder_run hstart (inOrder_begin _ _ k) hapart).ordered
    rw [hnothing, List.append_nil] at hordered
    rw [hreplayed, ← hvalues]
    exact get?_foldl_replay_congr hordered _
  refine ⟨?_, fun k => ⟨?_, ?_⟩, hsame, fun hone => ?_⟩
  · have hreceived := hsound.received
    rw [hnothing, List.append_nil] at hreceived
    exact hreceived
  · rw [hreplayed, get?_foldl_replay]
  · rw [← hvalues, get?_foldl_replay]
  · ext1 k
    obtain ⟨task, htask⟩ := hone k
    exact hsame k (apart_of_oneTask htask fun d hd => by cases hd)

/-- Two sources that have the same key. -/
def rivals : List (Operation Unit) :=
  [.addSource "first" 1 () (some (KeyMap.ofList [("k", .raw [1])])),
    .addSource "second" 2 () (some (KeyMap.ofList [("k", .raw [2])]))]

/-- The first source drops the key, and the second has another value for it.  When each task makes
its delivery before the other one enters its event under the key, the listener ends with the merged
value; it does not matter that the deliveries under another key come in between. -/
theorem rivals_apart :
    let schedule : List Move :=
      [.enter 0 ⟨"first", "k", .delete⟩, .enter 1 ⟨"second", "j", .create (.raw [4])⟩, .deliver 0,
        .deliver 1, .enter 1 ⟨"second", "k", .update (.raw [3])⟩, .deliver 1]
    let start := begin (after ([] ++ .listen "*" :: rivals))
    let s := start.run schedule
    let got := received (after ([] : List (Operation Unit))).listeners.length s.delivered
    s.due = [] ∧ Apart "k" start schedule ∧
    got = [⟨"second", "k", .update (.raw [2])⟩, ⟨"second", "j", .create (.raw [4])⟩,
      ⟨"second", "k", .update (.raw [3])⟩] ∧
    ((heard [] "*" rivals ++ got).foldl Event.replay ∅).get? "k" =
      s.manager.view.values.get? "k" := by
  intro schedule start s got
  have hfinished : s.due = [] := by decide
  have hapart : Apart "k" start schedule := by decide
  have hbefore : ∀ op ∈ ([] : List (Operation Unit)), op.registration? = none := fun _ hop => by
    cases hop
  have hgot : got = [⟨"second", "k", .update (.raw [2])⟩, ⟨"second", "j", .create (.raw [4])⟩,
      ⟨"second", "k", .update (.raw [3])⟩] := by decide
  have hwins := last_received_wins [] rivals hbefore schedule hfinished
  have hsame := hwins.2.2.1 "k" hapart
  refine ⟨hfinished, hapart, hgot, ?_⟩
  dsimp only [got, s, start]
  exact hsame

/-- The first source drops the key, which falls to the second; and before that is delivered, the
second comes to have another value, which is delivered first.  The listener ends with the value that
the second had before. -/
theorem overtaken_by_earlier :
    let schedule : List Move :=
      [.enter 0 ⟨"first", "k", .delete⟩, .enter 1 ⟨"second", "k", .update (.raw [3])⟩, .deliver 1,
        .deliver 0]
    let s := (begin (after ([] ++ .listen "*" :: rivals))).run schedule
    let got := received 0 s.delivered
    (s.manager.view.sources.map Registered.name).Nodup ∧ s.due = [] ∧
    s.published = [⟨"second", "k", .update (.raw [2])⟩, ⟨"second", "k", .update (.raw [3])⟩] ∧
    got = [⟨"second", "k", .update (.raw [3])⟩, ⟨"second", "k", .update (.raw [2])⟩] ∧
    ((heard [] "*" rivals ++ got).foldl Event.replay ∅).get? "k" = some (.raw [2]) ∧
    s.manager.view.values.get? "k" = some (.raw [3]) := by
  intro schedule s got
  exact ⟨by decide, by decide, by decide, by decide, by decide, by decide⟩

end ConcurrentManager

end SidecarAgent.Config
