import Mathlib.Data.List.DropRight
import SidecarAgent.Proofs.PartialRuns
import SidecarAgent.Refresh.Wait

/-!
# Waits among senders

The triggers of a scheduler are used by anybody and at any time, while a wait for the scheduler
takes one step after the other.  All this is told as a history, in which a signal can be sent
between any two steps of a wait.

A history accounts for what it leaves behind (`Vigil.accounted_of_run?`): the signals that a wait
has taken since the last wakeup, followed by what is queued, are those that were accepted since.  A
wait ends for what it found when it last looked for a signal, and what is accepted behind that look
is lost with it.

A wait that nothing comes between is the one that is run as a whole (`Vigil.wake?_eq_some_iff`).
-/

namespace SidecarAgent.Refresh

/-! ## Histories -/

/-- What may happen to a scheduler and to a wait for it.  Of a signal that is sent it is told
whether it was accepted, and of a step of a wait when it is taken and what it comes to. -/
inductive Act where
  | send (key : String) (accepted : Bool)
  | copyTrigger
  | dropTrigger
  | call
  | step (now : Nat) (finding : Finding)
  | close
  deriving DecidableEq, Repr

namespace Act

/-- A wait ends. -/
def isWakeup : Act → Bool
  | step _ (.finished _) => true
  | _ => false

/-- A wait looks for a signal. -/
def isLook : Act → Bool
  | step _ (.signal _) | step _ .noSignal => true
  | _ => false

/-- A look is no wakeup. -/
theorem isWakeup_of_isLook (a : Act) (h : a.isLook = true) : a.isWakeup = false := by
  cases a with
  | step now finding => cases finding <;> first | rfl | cases h
  | _ => rfl

/-- The key of a signal that is accepted. -/
def accepted? : Act → Option String
  | send key true => some key
  | _ => none

/-- The key of a signal that a wait takes out of the queue. -/
def taken? : Act → Option String
  | step _ (.signal key) | step _ (.discarded key) => some key
  | _ => none

end Act

/-- What a wait found when it last looked for a signal, if it has looked: the key of one, or none.
-/
def Stage.found? : Stage → Option (Option String)
  | receive => none
  | tick => some none
  | drain reason => some reason.key?

/-- A scheduler, and how far the wait for it has come if there is one. -/
structure Vigil where
  scheduler : Scheduler
  stage : Option Stage
  deriving DecidableEq, Repr

namespace Vigil

/-- The keys of the signals that are accepted in a history. -/
def acceptedIn (history : List Act) : List String := history.filterMap Act.accepted?

/-- The part of a history behind its last wakeup. -/
def sinceWakeup (history : List Act) : List Act := history.rtakeWhile fun a => !a.isWakeup

/-- The keys of the signals that were accepted since the last wakeup, or ever if there was none. -/
def acceptedSince (history : List Act) : List String := acceptedIn (sinceWakeup history)

/-- The keys of the signals that a wait has taken since the last wakeup. -/
def takenSince (history : List Act) : List String := (sinceWakeup history).filterMap Act.taken?

/-- The part of a history before a wait last looked for a signal. -/
def untilLook (history : List Act) : List Act := (history.rdropWhile fun a => !a.isLook).dropLast

/-- How often a trigger was copied. -/
def copies (history : List Act) : Nat := history.count .copyTrigger

/-- How often a trigger was dropped. -/
def drops (history : List Act) : Nat := history.count .dropTrigger

section Parts

variable {past between later : List Act} {a : Act}

/-- Nothing is behind a wakeup that is the last. -/
theorem sinceWakeup_concat_of_isWakeup (h : a.isWakeup = true) : sinceWakeup (past ++ [a]) = [] :=
  List.rtakeWhile_concat_neg _ _ _ (by simp [h])

/-- What is no wakeup is behind the last. -/
theorem sinceWakeup_concat_of_not_isWakeup (h : a.isWakeup = false) :
    sinceWakeup (past ++ [a]) = sinceWakeup past ++ [a] :=
  List.rtakeWhile_concat_pos _ _ _ (by simp [h])

/-- As long as there is no wakeup, everything is behind the last. -/
theorem sinceWakeup_append (h : ∀ a ∈ between, a.isWakeup = false) :
    sinceWakeup (past ++ between) = sinceWakeup past ++ between := by
  induction between using List.reverseRecOn with
  | nil => simp
  | append_singleton earlier a ih =>
    rw [← List.append_assoc, sinceWakeup_concat_of_not_isWakeup (h a (by simp)),
      ih fun e he => h e (List.mem_append_left _ he), List.append_assoc]

/-- Behind a wakeup is what comes after it. -/
theorem sinceWakeup_append_cons (ha : a.isWakeup = true) (h : ∀ a ∈ between, a.isWakeup = false) :
    sinceWakeup (past ++ a :: between) = between := by
  rw [List.append_cons, sinceWakeup_append h, sinceWakeup_concat_of_isWakeup ha, List.nil_append]

/-- A look that is the last is behind all that was before it. -/
theorem untilLook_concat_of_isLook (h : a.isLook = true) : untilLook (past ++ [a]) = past := by
  unfold untilLook
  rw [List.rdropWhile_concat_neg _ _ _ (by simp [h]), List.dropLast_concat]

/-- What is no look leaves the last where it was. -/
theorem untilLook_concat_of_not_isLook (h : a.isLook = false) :
    untilLook (past ++ [a]) = untilLook past := by
  unfold untilLook
  rw [List.rdropWhile_concat_pos _ _ _ (by simp [h])]

/-- As long as there is no look, the last stays where it was. -/
theorem untilLook_append (h : ∀ a ∈ between, a.isLook = false) :
    untilLook (past ++ between) = untilLook past := by
  induction between using List.reverseRecOn with
  | nil => rw [List.append_nil]
  | append_singleton earlier a ih =>
    rw [← List.append_assoc, untilLook_concat_of_not_isLook (h a (by simp)),
      ih fun e he => h e (List.mem_append_left _ he)]

/-- A look that none comes after is behind all that was before it. -/
theorem untilLook_append_cons (ha : a.isLook = true) (h : ∀ a ∈ between, a.isLook = false) :
    untilLook (past ++ a :: between) = past := by
  rw [List.append_cons, untilLook_append h, untilLook_concat_of_isLook ha]

/-- Of several acts of a kind one is the last. -/
theorem exists_last {kind : Act → Bool} (h : ∃ a ∈ between, kind a = true) :
    ∃ earlier a behind, between = earlier ++ a :: behind ∧ kind a = true ∧
      ∀ a ∈ behind, kind a = false := by
  induction between using List.reverseRecOn with
  | nil =>
    obtain ⟨a, ha, -⟩ := h
    exact absurd ha List.not_mem_nil
  | append_singleton earlier e ih =>
    cases he : kind e with
    | true => exact ⟨earlier, e, [], rfl, he, by simp⟩
    | false =>
      obtain ⟨a, ha, hakind⟩ := h
      have hmem : a ∈ earlier := by
        rcases List.mem_append.1 ha with ha | ha
        · exact ha
        · rw [List.mem_singleton.1 ha, he] at hakind
          cases hakind
      obtain ⟨before, last, behind, rfl, hlast, hbehind⟩ := ih ⟨a, hmem, hakind⟩
      refine ⟨before, last, behind ++ [e], by simp, hlast, fun x hx => ?_⟩
      rcases List.mem_append.1 hx with hx | hx
      · exact hbehind x hx
      · rw [List.mem_singleton.1 hx, he]

/-- If there was a look behind some time, the last was behind it as well. -/
theorem untilLook_append_of_exists (h : ∃ a ∈ between, a.isLook = true) :
    untilLook (past ++ between) = past ++ untilLook between := by
  obtain ⟨earlier, a, behind, rfl, ha, hbehind⟩ := exists_last h
  rw [← List.append_assoc, untilLook_append_cons ha hbehind, untilLook_append_cons ha hbehind]

/-- What was before the last look is at the beginning of a history. -/
theorem mem_of_mem_untilLook (h : a ∈ untilLook past) : a ∈ past :=
  (List.rdropWhile_prefix _ _).mem ((List.dropLast_prefix _).mem h)

end Parts

/-! ## Steps -/

/-- A scheduler that has just been made, with one trigger, and no wait for it. -/
def start (unit now period capacity : Nat) : Vigil :=
  ⟨Scheduler.make now period capacity unit, none⟩

/-- The queue of the scheduler. -/
abbrev queue (w : Vigil) : Queue := w.scheduler.queue

/-- The ticks of the scheduler. -/
abbrev interval (w : Vigil) : Interval := w.scheduler.interval

/-- The same with another queue. -/
def withQueue (w : Vigil) (q : Queue) : Vigil := ⟨{ w.scheduler with queue := q }, w.stage⟩

/-- What becomes of a scheduler and a wait for it when something happens, if it can happen. -/
def after? (w : Vigil) : Act → Option Vigil
  | .send key accepted =>
    if w.queue.senders ≠ 0 ∧ (w.scheduler.send key).2 = accepted then
      some ⟨(w.scheduler.send key).1, w.stage⟩
    else none
  | .copyTrigger => if w.queue.senders ≠ 0 then some (w.withQueue w.queue.addSender) else none
  | .dropTrigger => if w.queue.senders ≠ 0 then some (w.withQueue w.queue.dropSender) else none
  | .call =>
    if w.queue.receiving ∧ w.stage = none then some ⟨w.scheduler, some .receive⟩ else none
  | .step now finding =>
    w.stage.bind fun stage =>
      let (found, s, next) := w.scheduler.step now stage
      if found = finding then some ⟨s, next⟩ else none
  | .close =>
    if w.queue.receiving then some ⟨{ w.scheduler with queue := w.queue.dropReceiver }, none⟩
    else none

/-- What a history leaves, if all of it can happen in its order. -/
def run? (w : Vigil) (history : List Act) : Option Vigil := history.foldlM after? w

/-- What can happen, by what is queued and how far a wait has come. -/
inductive Undergoes (w : Vigil) : Act → Vigil → Prop
  | accepted {key : String} (htrigger : w.queue.senders ≠ 0) (halive : w.queue.receiving = true)
      (hroom : w.queue.signals.length < w.queue.capacity) :
      Undergoes w (.send key true)
        (w.withQueue { w.queue with signals := w.queue.signals ++ [key] })
  | refused {key : String} (htrigger : w.queue.senders ≠ 0)
      (hfull : w.queue.receiving = true → w.queue.capacity ≤ w.queue.signals.length) :
      Undergoes w (.send key false) w
  | copied (htrigger : w.queue.senders ≠ 0) :
      Undergoes w .copyTrigger (w.withQueue { w.queue with senders := w.queue.senders + 1 })
  | dropped (htrigger : w.queue.senders ≠ 0) :
      Undergoes w .dropTrigger (w.withQueue { w.queue with senders := w.queue.senders - 1 })
  | called (halive : w.queue.receiving = true) (hidle : w.stage = none) :
      Undergoes w .call ⟨w.scheduler, some .receive⟩
  | received {now : Nat} {key : String} {rest : List String} (hstage : w.stage = some .receive)
      (hqueued : w.queue.signals = key :: rest) :
      Undergoes w (.step now (.signal key))
        ⟨{ w.scheduler with queue := { w.queue with signals := rest } },
          some (.drain (.signal key))⟩
  | missed {now : Nat} (hstage : w.stage = some .receive) (hqueued : w.queue.signals = []) :
      Undergoes w (.step now .noSignal) ⟨w.scheduler, some .tick⟩
  | ticked {now : Nat} (hstage : w.stage = some .tick) (hdue : w.interval.deadline ≤ now) :
      Undergoes w (.step now .tick)
        ⟨{ w.scheduler with interval := w.interval.tick now }, some (.drain .tick)⟩
  | slept {now : Nat} (hstage : w.stage = some .tick) (hearly : now < w.interval.deadline) :
      Undergoes w (.step now .noTick) ⟨w.scheduler, some .receive⟩
  | discarded {now : Nat} {reason : Wakeup} {key : String} {rest : List String}
      (hstage : w.stage = some (.drain reason)) (hqueued : w.queue.signals = key :: rest) :
      Undergoes w (.step now (.discarded key))
        ⟨{ w.scheduler with queue := { w.queue with signals := rest } }, some (.drain reason)⟩
  | finished {now : Nat} {reason : Wakeup} (hstage : w.stage = some (.drain reason))
      (hqueued : w.queue.signals = []) :
      Undergoes w (.step now (.finished reason)) ⟨w.scheduler, none⟩
  | closed (halive : w.queue.receiving = true) :
      Undergoes w .close
        ⟨{ w.scheduler with queue := { w.queue with receiving := false, signals := [] } }, none⟩

variable {w v u : Vigil} {a : Act}

/-- A wait takes the step that its stage is for, and finds what is there. -/
theorem step_undergoes {stage : Stage} {now : Nat} (hstage : w.stage = some stage) :
    w.Undergoes (.step now (w.scheduler.step now stage).1)
      ⟨(w.scheduler.step now stage).2.1, (w.scheduler.step now stage).2.2⟩ := by
  unfold Scheduler.step
  cases stage with
  | receive =>
    cases hqueued : w.queue.signals with
    | nil =>
      rw [Queue.receive?_of_empty hqueued]
      exact .missed hstage hqueued
    | cons key rest =>
      rw [Queue.receive?_of_queued hqueued]
      exact .received hstage hqueued
  | tick =>
    by_cases hdue : w.interval.deadline ≤ now
    · rw [Interval.isDue, if_pos (decide_eq_true hdue)]
      exact .ticked hstage hdue
    · rw [Interval.isDue, if_neg (by simpa using hdue)]
      exact .slept hstage (Nat.not_le.1 hdue)
  | drain reason =>
    cases hqueued : w.queue.signals with
    | nil =>
      rw [Queue.receive?_of_empty hqueued]
      exact .finished hstage hqueued
    | cons key rest =>
      rw [Queue.receive?_of_queued hqueued]
      exact .discarded hstage hqueued

/-- What becomes of a scheduler and a wait for it is what can happen. -/
theorem after?_eq_some_iff : w.after? a = some v ↔ w.Undergoes a v := by
  constructor
  · -- what can happen needs what is checked, and what is queued decides the rest
    intro h
    cases a with
    | send key accepted =>
      obtain ⟨⟨htrigger, haccepted⟩, hv⟩ := Option.ite_none_right_eq_some.1 h
      rcases w.scheduler.send_cases key with ⟨halive, hroom, hsend⟩ | ⟨hfull, hsend⟩
      · rw [hsend] at haccepted hv
        cases haccepted
        cases hv
        exact .accepted htrigger halive hroom
      · rw [hsend] at haccepted hv
        cases haccepted
        cases hv
        exact .refused htrigger hfull
    | copyTrigger =>
      obtain ⟨htrigger, hv⟩ := Option.ite_none_right_eq_some.1 h
      cases hv
      exact .copied htrigger
    | dropTrigger =>
      obtain ⟨htrigger, hv⟩ := Option.ite_none_right_eq_some.1 h
      cases hv
      exact .dropped htrigger
    | call =>
      obtain ⟨⟨halive, hidle⟩, hv⟩ := Option.ite_none_right_eq_some.1 h
      cases hv
      exact .called halive hidle
    | step now finding =>
      obtain ⟨stage, hstage, hstep⟩ := Option.bind_eq_some_iff.1 h
      obtain ⟨hfinding, hv⟩ := Option.ite_none_right_eq_some.1 hstep
      cases hv
      cases hfinding
      exact step_undergoes hstage
    | close =>
      obtain ⟨halive, hv⟩ := Option.ite_none_right_eq_some.1 h
      cases hv
      exact .closed halive
  · intro h
    unfold after?
    cases h with
    | accepted htrigger halive hroom =>
      simp [Scheduler.send_of_room halive hroom, htrigger, withQueue]
    | refused htrigger hfull => simp [Scheduler.send_of_full hfull, htrigger]
    | copied htrigger => exact if_pos htrigger
    | dropped htrigger => exact if_pos htrigger
    | called halive hidle => exact if_pos ⟨halive, hidle⟩
    | received hstage hqueued =>
      simp [hstage, Scheduler.step, Queue.receive?_of_queued hqueued]
    | missed hstage hqueued => simp [hstage, Scheduler.step, Queue.receive?_of_empty hqueued]
    | ticked hstage hdue => simp [hstage, Scheduler.step, Interval.isDue, hdue]
    | slept hstage hearly =>
      simp [hstage, Scheduler.step, Interval.isDue, Nat.not_le.2 hearly]
    | discarded hstage hqueued =>
      simp [hstage, Scheduler.step, Queue.receive?_of_queued hqueued]
    | finished hstage hqueued => simp [hstage, Scheduler.step, Queue.receive?_of_empty hqueued]
    | closed halive => exact if_pos halive

variable {past later history : List Act}

/-- A history is run through its first act and then the others. -/
theorem run?_cons_eq_some_iff :
    w.run? (a :: later) = some v ↔ ∃ u, w.after? a = some u ∧ u.run? later = some v :=
  Option.bind_eq_some_iff

/-- A history is run through one part after the other. -/
theorem run?_append_eq_some_iff :
    w.run? (past ++ later) = some v ↔ ∃ u, w.run? past = some u ∧ u.run? later = some v :=
  foldlM_append_eq_some_iff

/-- A history is run through what comes before an act, the act itself, and what comes after it. -/
theorem run?_append_cons_eq_some_iff :
    w.run? (past ++ a :: later) = some v ↔
      ∃ x y, w.run? past = some x ∧ x.after? a = some y ∧ y.run? later = some v :=
  foldlM_append_cons_eq_some_iff

/-! ## Accounts -/

namespace Undergoes

/-- Nothing changes the capacity of a queue. -/
theorem capacity_eq (h : w.Undergoes a v) : v.queue.capacity = w.queue.capacity := by
  cases h <;> rfl

/-- A scheduler is there until it goes away. -/
theorem receiving_iff (h : w.Undergoes a v) :
    v.queue.receiving = true ↔ w.queue.receiving = true ∧ a ≠ .close := by
  cases h <;> simp [withQueue]

/-- A trigger more is there for each copy, and one less for each that goes away. -/
theorem senders_eq (h : w.Undergoes a v) :
    v.queue.senders + (if a = .dropTrigger then 1 else 0) =
      w.queue.senders + (if a = .copyTrigger then 1 else 0) := by
  cases h with
  | dropped htrigger => exact Nat.sub_add_cancel (Nat.one_le_iff_ne_zero.2 htrigger)
  | _ => rfl

/-- The queue is first in, first out: what is taken was the head of what is queued, and what is
accepted comes behind it. -/
theorem signals_eq (h : w.Undergoes a v) (halive : v.queue.receiving = true) :
    a.taken?.toList ++ v.queue.signals = w.queue.signals ++ a.accepted?.toList := by
  cases h with
  | accepted _ _ _ => rfl
  | received _ hqueued => exact hqueued.symm.trans (List.append_nil _).symm
  | discarded _ hqueued => exact hqueued.symm.trans (List.append_nil _).symm
  | closed _ => cases halive
  | _ => exact (List.append_nil _).symm

/-- A wait only ends when nothing is queued. -/
theorem signals_eq_nil (h : w.Undergoes a v) (hwakeup : a.isWakeup = true) :
    w.queue.signals = [] ∧ v.queue.signals = [] := by
  cases h with
  | finished _ hqueued => exact ⟨hqueued, hqueued⟩
  | _ => cases hwakeup

/-- A wait that looks finds the head of what is queued, and has not looked before. -/
theorem of_isLook (h : w.Undergoes a v) (hlook : a.isLook = true) :
    w.stage = some .receive ∧
      ∃ stage, v.stage = some stage ∧ stage.found? = some w.queue.signals.head? := by
  cases h with
  | received hstage hqueued => exact ⟨hstage, _, rfl, by rw [hqueued]; rfl⟩
  | missed hstage hqueued => exact ⟨hstage, _, rfl, by rw [hqueued]; rfl⟩
  | _ => cases hlook

/-- What a wait has found stays what it was until the wait looks again or ends. -/
theorem found_of_not_isLook (h : w.Undergoes a v) (hlook : a.isLook = false) {stage : Stage}
    {key? : Option String} (hstage : v.stage = some stage) (hfound : stage.found? = some key?) :
    a.isWakeup = false ∧ ∃ before, w.stage = some before ∧ before.found? = some key? := by
  cases h with
  | called _ _ => 
    cases hstage
    cases hfound
  | slept _ _ =>
    cases hstage
    cases hfound
  | received _ _ => cases hlook
  | missed _ _ => cases hlook
  | ticked hbefore _ =>
    cases hstage
    exact ⟨rfl, _, hbefore, hfound⟩
  | discarded hbefore _ =>
    cases hstage
    exact ⟨rfl, _, hbefore, hfound⟩
  | finished _ _ => cases hstage
  | closed _ => cases hstage
  | _ => exact ⟨rfl, stage, hstage, hfound⟩

/-- Only a wait that empties the queue has taken anything out of it. -/
theorem taken?_eq_none (h : w.Undergoes a v) (halive : v.queue.receiving = true)
    (hwakeup : a.isWakeup = false) (hstage : ∀ reason, v.stage ≠ some (.drain reason)) :
    a.taken? = none ∧ ∀ reason, w.stage ≠ some (.drain reason) := by
  cases h with
  | called _ hidle => exact ⟨rfl, by simp [hidle]⟩
  | received _ _ => exact absurd rfl (hstage _)
  | missed hbefore _ => exact ⟨rfl, by simp [hbefore]⟩
  | ticked _ _ => exact absurd rfl (hstage _)
  | slept hbefore _ => exact ⟨rfl, by simp [hbefore]⟩
  | discarded _ _ => exact absurd rfl (hstage _)
  | finished _ _ => cases hwakeup
  | closed _ => cases halive
  | _ => exact ⟨rfl, hstage⟩

/-- A wait goes on only if it was called, or was going on and has not ended. -/
theorem stage_ne_none_iff (h : w.Undergoes a v) :
    v.stage ≠ none ↔ a = .call ∨ w.stage ≠ none ∧ a.isWakeup = false ∧ a ≠ .close := by
  cases h <;> simp_all [withQueue, Act.isWakeup]

/-- A wait is only called for a scheduler that is there. -/
theorem receiving_of_call (h : w.Undergoes .call v) : w.queue.receiving = true := by
  cases h
  assumption

end Undergoes

/-- A history accounts for a scheduler and the wait for it: for whether the scheduler is still there
and for the triggers that are left; while it is there, for what is queued and what was taken; and
for what the wait has found. -/
structure Accounted (capacity : Nat) (history : List Act) (w : Vigil) : Prop where
  capacity : w.queue.capacity = max capacity 1
  alive : w.queue.receiving = true ↔ ∀ a ∈ history, a ≠ .close
  triggers : w.queue.senders + drops history = copies history + 1
  queued : w.queue.receiving = true →
    takenSince history ++ w.queue.signals = acceptedSince history
  untaken : w.queue.receiving = true → (∀ reason, w.stage ≠ some (.drain reason)) →
    takenSince history = []
  waiting : w.stage ≠ none → w.queue.receiving = true
  found : ∀ stage key?, w.stage = some stage → stage.found? = some key? →
    (∃ a ∈ sinceWakeup history, a.isLook = true) ∧
      key? = (acceptedSince (untilLook history)).head?

variable {capacity : Nat}

/-- What is accepted at an act that is no wakeup is added to what was accepted before. -/
theorem acceptedSince_concat (h : a.isWakeup = false) :
    acceptedSince (past ++ [a]) = acceptedSince past ++ a.accepted?.toList := by
  unfold acceptedSince acceptedIn
  rw [sinceWakeup_concat_of_not_isWakeup h, List.filterMap_append]
  cases hkey : a.accepted? <;> simp [hkey]

/-- What is taken at an act that is no wakeup is added to what was taken before. -/
theorem takenSince_concat (h : a.isWakeup = false) :
    takenSince (past ++ [a]) = takenSince past ++ a.taken?.toList := by
  unfold takenSince
  rw [sinceWakeup_concat_of_not_isWakeup h, List.filterMap_append]
  cases hkey : a.taken? <;> simp [hkey]

/-- Nothing was accepted since a wakeup that was just now. -/
theorem acceptedSince_concat_of_isWakeup (h : a.isWakeup = true) :
    acceptedSince (past ++ [a]) = [] := by
  unfold acceptedSince
  rw [sinceWakeup_concat_of_isWakeup h]
  rfl

/-- Nothing was taken since a wakeup that was just now. -/
theorem takenSince_concat_of_isWakeup (h : a.isWakeup = true) : takenSince (past ++ [a]) = [] := by
  unfold takenSince
  rw [sinceWakeup_concat_of_isWakeup h]
  rfl

/-- An account is kept through everything that can happen. -/
theorem Accounted.after (h : Accounted capacity past w) (hafter : w.after? a = some v) :
    Accounted capacity (past ++ [a]) v := by
  have hundergoes := after?_eq_some_iff.1 hafter
  refine ⟨hundergoes.capacity_eq.trans h.capacity, ?_, ?_, fun halive => ?_,
    fun halive hstage => ?_, fun hwaiting => ?_, fun stage key? hstage hfound => ?_⟩
  · rw [hundergoes.receiving_iff, List.forall_mem_append, List.forall_mem_singleton, ← h.alive]
  · have hsenders := hundergoes.senders_eq
    have htriggers := h.triggers
    simp only [copies, drops, List.count_append, List.count_singleton, beq_iff_eq] at htriggers ⊢
    omega
  · have hqueued := h.queued (hundergoes.receiving_iff.1 halive).1
    cases hwakeup : a.isWakeup with
    | true =>
      rw [acceptedSince_concat_of_isWakeup hwakeup, takenSince_concat_of_isWakeup hwakeup,
        (hundergoes.signals_eq_nil hwakeup).2]
      rfl
    | false =>
      rw [acceptedSince_concat hwakeup, takenSince_concat hwakeup, ← hqueued, List.append_assoc,
        List.append_assoc, hundergoes.signals_eq halive]
  · cases hwakeup : a.isWakeup with
    | true => exact takenSince_concat_of_isWakeup hwakeup
    | false =>
      obtain ⟨hnone, hbefore⟩ := hundergoes.taken?_eq_none halive hwakeup hstage
      rw [takenSince_concat hwakeup, hnone,
        h.untaken (hundergoes.receiving_iff.1 halive).1 hbefore]
      rfl
  · rw [hundergoes.receiving_iff]
    rcases hundergoes.stage_ne_none_iff.1 hwaiting with rfl | ⟨hbefore, -, hopen⟩
    · exact ⟨hundergoes.receiving_of_call, by simp⟩
    · exact ⟨h.waiting hbefore, hopen⟩
  · cases hlook : a.isLook with
    | true =>
      -- the queue is what was accepted since the last wakeup, for nothing is taken before a look
      obtain ⟨hbefore, next, hnext, hhead⟩ := hundergoes.of_isLook hlook
      obtain rfl : next = stage := Option.some.inj (hnext.symm.trans hstage)
      have halive := h.waiting (by simp [hbefore])
      have hqueued := h.queued halive
      rw [h.untaken halive (by simp [hbefore]), List.nil_append] at hqueued
      have hquiet := a.isWakeup_of_isLook hlook
      rw [untilLook_concat_of_isLook hlook, ← hqueued, sinceWakeup_concat_of_not_isWakeup hquiet]
      exact ⟨⟨a, by simp, hlook⟩, Option.some.inj (hfound.symm.trans hhead)⟩
    | false =>
      obtain ⟨hquiet, before, hbefore, hsame⟩ := hundergoes.found_of_not_isLook hlook hstage hfound
      obtain ⟨⟨e, he, helook⟩, hkey⟩ := h.found before key? hbefore hsame
      rw [untilLook_concat_of_not_isLook hlook, sinceWakeup_concat_of_not_isWakeup hquiet]
      exact ⟨⟨e, List.mem_append_left _ he, helook⟩, hkey⟩

/-- Every history of a scheduler accounts for it. -/
theorem accounted_of_run? {unit now period : Nat}
    (h : (start unit now period capacity).run? history = some w) : Accounted capacity history w :=
  foldlM_induction
    ⟨rfl, by simp [start, Scheduler.make, Queue.make], rfl, fun _ => rfl, fun _ _ => rfl,
      fun hwaiting => absurd rfl hwaiting, fun _ _ hstage => by cases hstage⟩
    (fun _ _ _ _ hpast hafter => hpast.after hafter) h

/-! ## Waits that nothing comes between -/

variable {s t : Scheduler} {stage : Stage} {reason : Wakeup} {now : Nat}

/-- Steps of a wait that are taken at one time, and nothing between them. -/
def alone (now : Nat) (findings : List Finding) : List Act := findings.map (.step now)

/-- What a wait comes to from some stage on, if nothing comes between its steps. -/
def outcome? (s : Scheduler) (now : Nat) : Stage → Option (Wakeup × Scheduler)
  | .receive => s.wake? now
  | .tick =>
    if s.interval.deadline ≤ now then some (.tick, ⟨s.queue.drain, s.interval.tick now⟩)
    else s.wake? now
  | .drain reason => some (reason, ⟨s.queue.drain, s.interval⟩)

/-- With nothing queued, there is nothing to discard. -/
theorem drain_of_empty {q : Queue} (h : q.signals = []) : q.drain = q := by
  rw [Queue.drain, ← h]

/-- A step of a wait leaves what the wait comes to as it is. -/
theorem outcome?_of_step {finding : Finding} {next : Stage}
    (h : (⟨s, some stage⟩ : Vigil).after? (.step now finding) = some ⟨t, some next⟩) :
    outcome? t now next = outcome? s now stage := by
  have hundergoes := after?_eq_some_iff.1 h
  cases hundergoes with
  | received hstage hqueued =>
    cases hstage
    exact (Scheduler.wake?_of_queued hqueued).symm
  | missed hstage hqueued =>
    cases hstage
    change (if s.interval.deadline ≤ now then some (Wakeup.tick, _) else s.wake? now) = s.wake? now
    rw [Scheduler.wake?_of_empty hqueued, drain_of_empty hqueued]
    split <;> rfl
  | ticked hstage hdue =>
    cases hstage
    exact (if_pos hdue).symm
  | slept hstage hearly =>
    cases hstage
    exact (if_neg (Nat.not_le.2 hearly)).symm
  | discarded hstage hqueued =>
    cases hstage
    rfl

/-- The last step of a wait is what the wait comes to. -/
theorem outcome?_of_last_step {finding : Finding}
    (h : (⟨s, some stage⟩ : Vigil).after? (.step now finding) = some ⟨t, none⟩) :
    ∃ reason, finding = .finished reason ∧ outcome? s now stage = some (reason, t) := by
  have hundergoes := after?_eq_some_iff.1 h
  cases hundergoes with
  | finished hstage hqueued =>
    cases hstage
    exact ⟨_, rfl, by rw [outcome?, drain_of_empty hqueued]⟩

/-- A wait that has found its reason discards what is queued and ends. -/
theorem run?_drain (s : Scheduler) (reason : Wakeup) (now : Nat) :
    ∃ findings, (⟨s, some (.drain reason)⟩ : Vigil).run?
      (alone now (findings ++ [.finished reason])) = some ⟨⟨s.queue.drain, s.interval⟩, none⟩ := by
  generalize hqueued : s.queue.signals = signals
  induction signals generalizing s with
  | nil =>
    refine ⟨[], run?_cons_eq_some_iff.2 ⟨_, after?_eq_some_iff.2 (.finished rfl hqueued), ?_⟩⟩
    rw [drain_of_empty hqueued]
    rfl
  | cons key rest ih =>
    obtain ⟨findings, hrun⟩ := ih { s with queue := { s.queue with signals := rest } } rfl
    exact ⟨.discarded key :: findings, run?_cons_eq_some_iff.2
      ⟨_, after?_eq_some_iff.2 (.discarded rfl hqueued), hrun⟩⟩

/-- A wait that nothing comes between comes to its outcome. -/
theorem outcome?_of_run? {findings : List Finding} {finding : Finding}
    (h : (⟨s, some stage⟩ : Vigil).run? (alone now (findings ++ [finding])) = some ⟨t, none⟩) :
    ∃ reason, finding = .finished reason ∧ outcome? s now stage = some (reason, t) := by
  induction findings generalizing s stage with
  | nil =>
    obtain ⟨u, hu, hrest⟩ := run?_cons_eq_some_iff.1 h
    cases hrest
    exact outcome?_of_last_step hu
  | cons first rest ih =>
    obtain ⟨⟨u, next⟩, hu, hrest⟩ := run?_cons_eq_some_iff.1 h
    cases next with
    | some next =>
      rw [← outcome?_of_step hu]
      exact ih hrest
    | none =>
      -- a wait that is over takes no step
      cases rest with
      | nil => cases hrest
      | cons second rest => cases hrest

/-- A wait that nothing comes between is the one that is run as a whole. -/
theorem wake?_eq_some_iff :
    s.wake? now = some (reason, t) ↔
      ∃ findings, (⟨s, some .receive⟩ : Vigil).run?
        (alone now (findings ++ [.finished reason])) = some ⟨t, none⟩ := by
  constructor
  · intro h
    cases hqueued : s.queue.signals with
    | nil =>
      rw [Scheduler.wake?_of_empty hqueued] at h
      obtain ⟨hdue, hwake⟩ := Option.ite_none_right_eq_some.1 h
      cases hwake
      obtain ⟨findings, hrun⟩ := run?_drain ⟨s.queue, s.interval.tick now⟩ .tick now
      rw [drain_of_empty hqueued] at hrun
      exact ⟨.noSignal :: .tick :: findings,
        run?_cons_eq_some_iff.2 ⟨_, after?_eq_some_iff.2 (.missed rfl hqueued),
          run?_cons_eq_some_iff.2 ⟨_, after?_eq_some_iff.2 (.ticked rfl hdue), hrun⟩⟩⟩
    | cons key rest =>
      rw [Scheduler.wake?_of_queued hqueued] at h
      cases h
      obtain ⟨findings, hrun⟩ :=
        run?_drain { s with queue := { s.queue with signals := rest } } (.signal key) now
      exact ⟨.signal key :: findings, run?_cons_eq_some_iff.2
        ⟨_, after?_eq_some_iff.2 (.received rfl hqueued), hrun⟩⟩
  · rintro ⟨findings, hrun⟩
    obtain ⟨found, hfound, houtcome⟩ := outcome?_of_run? hrun
    cases hfound
    exact houtcome

end Vigil

end SidecarAgent.Refresh
