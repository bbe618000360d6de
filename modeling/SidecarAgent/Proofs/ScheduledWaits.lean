import Mathlib.Data.List.DropRight
import SidecarAgent.Proofs.InterleavedWaits

/-!
# A scheduler at work

The triggers of a scheduler send signals, are copied and go away, while a loop waits for the
scheduler to wake it up, works for some time, and waits again; in the end the scheduler may go away
as well.  All this is told as a history: a list of moments, each with its time.  Between two moments
time may pass, but not beyond the end of a wait, which comes as soon as there is a reason to wake
up.  Nothing comes between the steps of a wait here, so that a wakeup is one moment: all the steps
from looking for a signal to finding the queue empty (`Watch.undergoes_wake_iff`).

A history accounts for what it leaves behind (`Watch.accounted_of_run?`): what is queued are the
signals that were accepted since the last wakeup.
-/

namespace SidecarAgent.Refresh

/-! ## Histories -/

/-- What may happen to a scheduler.  Of a signal that is sent it is told whether it was accepted,
and of a wakeup its reason. -/
inductive Occurrence where
  | send (key : String) (accepted : Bool)
  | copyTrigger
  | dropTrigger
  | wait
  | wake (reason : Wakeup)
  | close
  deriving DecidableEq, Repr

namespace Occurrence

/-- A wait ends. -/
def isWakeup : Occurrence → Bool
  | wake _ => true
  | _ => false

/-- A signal is sent. -/
def isSend : Occurrence → Bool
  | send _ _ => true
  | _ => false

/-- The key of a signal that is accepted. -/
def accepted? : Occurrence → Option String
  | send key true => some key
  | _ => none

end Occurrence

/-- Something that happens, and when. -/
structure Moment where
  time : Nat
  what : Occurrence
  deriving DecidableEq, Repr

/-- The keys of the signals that are accepted in a history. -/
def acceptedIn (history : List Moment) : List String := history.filterMap fun m => m.what.accepted?

/-- The keys of the signals that were accepted since the last wakeup, or ever if there was none. -/
def acceptedSince (history : List Moment) : List String :=
  acceptedIn (history.rtakeWhile fun m => !m.what.isWakeup)

variable {past : List Moment} {m : Moment}

/-- Nothing was accepted since a wakeup that was just now. -/
theorem acceptedSince_concat_of_isWakeup (h : m.what.isWakeup = true) :
    acceptedSince (past ++ [m]) = [] := by
  unfold acceptedSince
  rw [List.rtakeWhile_concat_neg _ _ _ (by simp [h])]
  rfl

/-- A moment that is no wakeup adds what is accepted at it. -/
theorem acceptedSince_concat_of_not_isWakeup (h : m.what.isWakeup = false) :
    acceptedSince (past ++ [m]) = acceptedSince past ++ m.what.accepted?.toList := by
  unfold acceptedSince acceptedIn
  rw [List.rtakeWhile_concat_pos _ _ _ (by simp [h]), List.filterMap_append]
  cases hkey : m.what.accepted? <;> simp [hkey]

/-! ## Steps -/

/-- A scheduler at some time, and whether a wait for it is going on. -/
structure Watch where
  scheduler : Scheduler
  now : Nat
  waiting : Bool
  deriving DecidableEq, Repr

namespace Watch

/-- A scheduler that has just been made, with one trigger. -/
def start (unit now period capacity : Nat) : Watch :=
  ⟨Scheduler.make now period capacity unit, now, false⟩

/-- The queue of the scheduler. -/
abbrev queue (w : Watch) : Queue := w.scheduler.queue

/-- The ticks of the scheduler. -/
abbrev interval (w : Watch) : Interval := w.scheduler.interval

/-- The same with another queue. -/
def withQueue (w : Watch) (q : Queue) : Watch := ⟨⟨q, w.interval⟩, w.now, w.waiting⟩

/-- Time can pass until then: no wait has to end before. -/
def reaches (w : Watch) (time : Nat) : Bool :=
  w.now ≤ time && (!w.waiting || time ≤ w.scheduler.wakeTime w.now)

/-- What becomes of a scheduler when something happens to it now, if it can happen. -/
def undergo? (w : Watch) : Occurrence → Option Watch
  | .send key accepted =>
    if w.queue.senders ≠ 0 ∧ (w.scheduler.send key).2 = accepted then
      some ⟨(w.scheduler.send key).1, w.now, w.waiting⟩
    else none
  | .copyTrigger => if w.queue.senders ≠ 0 then some (w.withQueue w.queue.addSender) else none
  | .dropTrigger => if w.queue.senders ≠ 0 then some (w.withQueue w.queue.dropSender) else none
  | .wait => if w.queue.receiving ∧ ¬ w.waiting then some ⟨w.scheduler, w.now, true⟩ else none
  | .wake reason =>
    match w.scheduler.wake? w.now with
    | some (found, s) => if w.waiting ∧ found = reason then some ⟨s, w.now, false⟩ else none
    | none => none
  | .close =>
    if w.queue.receiving then some ⟨⟨w.queue.dropReceiver, w.interval⟩, w.now, false⟩ else none

/-- What becomes of a scheduler at a moment. -/
def after? (w : Watch) (m : Moment) : Option Watch :=
  if w.reaches m.time then undergo? { w with now := m.time } m.what else none

/-- What a history leaves of a scheduler, if all of it can happen in its order. -/
def run? : Watch → List Moment → Option Watch
  | w, [] => some w
  | w, m :: later => (w.after? m).bind fun v => v.run? later

/-- What can happen to a scheduler, by what is queued, whether anybody waits, and the time. -/
inductive Undergoes (w : Watch) : Occurrence → Watch → Prop
  | accepted {key : String} (htrigger : w.queue.senders ≠ 0) (halive : w.queue.receiving = true)
      (hroom : w.queue.signals.length < w.queue.capacity) :
      Undergoes w (.send key true)
        (w.withQueue { w.queue with signals := w.queue.signals ++ [key] })
  | refused {key : String} (htrigger : w.queue.senders ≠ 0)
      (hfull : w.queue.receiving = true → w.queue.capacity ≤ w.queue.signals.length) :
      Undergoes w (.send key false) w
  | copied (htrigger : w.queue.senders ≠ 0) :
      Undergoes w .copyTrigger (w.withQueue { w.queue with senders := w.queue.senders + 1 })
  | dropped (htrigger : w.queue.senders ≠ 0) :
      Undergoes w .dropTrigger (w.withQueue { w.queue with senders := w.queue.senders - 1 })
  | awaited (halive : w.queue.receiving = true) (hidle : w.waiting = false) :
      Undergoes w .wait ⟨w.scheduler, w.now, true⟩
  | signalled {key : String} {rest : List String} (hwaiting : w.waiting = true)
      (hqueued : w.queue.signals = key :: rest) :
      Undergoes w (.wake (.signal key)) ⟨⟨{ w.queue with signals := [] }, w.interval⟩, w.now, false⟩
  | ticked (hwaiting : w.waiting = true) (hqueued : w.queue.signals = [])
      (hdue : w.interval.deadline ≤ w.now) :
      Undergoes w (.wake .tick) ⟨⟨w.queue, w.interval.tick w.now⟩, w.now, false⟩
  | closed (halive : w.queue.receiving = true) :
      Undergoes w .close
        ⟨⟨{ w.queue with receiving := false, signals := [] }, w.interval⟩, w.now, false⟩

variable {w v u : Watch} {m : Moment}

/-- What becomes of a scheduler is what can happen to it. -/
theorem undergo?_eq_some_iff {o : Occurrence} : w.undergo? o = some v ↔ w.Undergoes o v := by
  constructor
  · -- what a moment needs is what the step checks, and what is queued decides the rest
    intro h
    cases o with
    | send key accepted =>
      obtain ⟨⟨htrigger, haccepted⟩, hv⟩ := Option.ite_none_right_eq_some.1 h
      rcases w.scheduler.send_cases key with ⟨halive, hroom, hsend⟩ | ⟨hfull, hsend⟩
      · rw [hsend] at haccepted hv
        cases haccepted
        cases hv
        exact .accepted htrigger halive hroom
      · rw [hsend] at haccepted hv
        cases haccepted
        cases hv
        exact .refused htrigger hfull
    | copyTrigger =>
      obtain ⟨htrigger, hv⟩ := Option.ite_none_right_eq_some.1 h
      cases hv
      exact .copied htrigger
    | dropTrigger =>
      obtain ⟨htrigger, hv⟩ := Option.ite_none_right_eq_some.1 h
      cases hv
      exact .dropped htrigger
    | wait =>
      obtain ⟨⟨halive, hidle⟩, hv⟩ := Option.ite_none_right_eq_some.1 h
      cases hv
      exact .awaited halive (by simpa using hidle)
    | wake reason =>
      unfold undergo? at h
      cases hsignals : w.queue.signals with
      | nil =>
        rw [Scheduler.wake?_of_empty hsignals] at h
        by_cases hdue : w.interval.deadline ≤ w.now
        · rw [if_pos hdue] at h
          obtain ⟨⟨hwaiting, rfl⟩, hv⟩ := Option.ite_none_right_eq_some.1 h
          cases hv
          exact .ticked hwaiting hsignals hdue
        · rw [if_neg hdue] at h
          cases h
      | cons key rest =>
        rw [Scheduler.wake?_of_queued hsignals] at h
        obtain ⟨⟨hwaiting, rfl⟩, hv⟩ := Option.ite_none_right_eq_some.1 h
        cases hv
        exact .signalled hwaiting hsignals
    | close =>
      obtain ⟨halive, hv⟩ := Option.ite_none_right_eq_some.1 h
      cases hv
      exact .closed halive
  · intro h
    unfold undergo?
    cases h with
    | accepted htrigger halive hroom =>
      simp [Scheduler.send_of_room halive hroom, htrigger, withQueue]
    | refused htrigger hfull => simp [Scheduler.send_of_full hfull, htrigger]
    | copied htrigger => exact if_pos htrigger
    | dropped htrigger => exact if_pos htrigger
    | awaited halive hidle => exact if_pos ⟨halive, by simpa using hidle⟩
    | signalled hwaiting hqueued => simp [Scheduler.wake?_of_queued hqueued, hwaiting]
    | ticked hwaiting hqueued hdue => simp [Scheduler.wake?_of_empty hqueued, hwaiting, hdue]
    | closed halive => exact if_pos halive

/-- A wakeup is all the steps of a wait, with nothing between them. -/
theorem undergoes_wake_iff {reason : Wakeup} :
    w.Undergoes (.wake reason) v ↔ w.waiting = true ∧ v.now = w.now ∧ v.waiting = false ∧
      ∃ findings, (⟨w.scheduler, some .receive⟩ : Vigil).run?
        (Vigil.alone w.now (findings ++ [.finished reason])) = some ⟨v.scheduler, none⟩ := by
  rw [← Vigil.wake?_eq_some_iff, ← undergo?_eq_some_iff, undergo?]
  constructor
  · intro h
    split at h
    · rename_i found s hwake
      obtain ⟨⟨hwaiting, rfl⟩, hv⟩ := Option.ite_none_right_eq_some.1 h
      cases hv
      exact ⟨hwaiting, rfl, rfl, hwake⟩
    · cases h
  · obtain ⟨scheduler, now, waiting⟩ := v
    rintro ⟨hwaiting, rfl, rfl, hwake⟩
    rw [hwake]
    exact if_pos ⟨hwaiting, rfl⟩

/-- At a moment, a scheduler undergoes what happens, after the time until then has passed. -/
theorem after?_eq_some_iff :
    w.after? m = some v ↔ w.reaches m.time ∧ Undergoes { w with now := m.time } m.what v := by
  rw [after?, Option.ite_none_right_eq_some, undergo?_eq_some_iff]

/-- While a wait goes on and something is queued, no time passes. -/
theorem reaches_iff_of_queued {key : String} {rest : List String}
    {t : Nat} (hwaiting : w.waiting = true)
    (hqueued : w.queue.signals = key :: rest) : w.reaches t = true ↔ t = w.now := by
  unfold reaches
  rw [Scheduler.wakeTime_of_queued hqueued, hwaiting]
  simp
  omega

/-- While a wait goes on and nothing is queued, time passes until the tick is due. -/
theorem reaches_iff_of_empty {t : Nat} (hwaiting : w.waiting = true)
    (hqueued : w.queue.signals = []) :
    w.reaches t = true ↔ w.now ≤ t ∧ t ≤ max w.now w.interval.deadline := by
  unfold reaches
  rw [Scheduler.wakeTime_of_empty hqueued, hwaiting]
  simp

/-- A history is run moment by moment. -/
theorem run?_eq_foldlM (w : Watch) (history : List Moment) :
    w.run? history = history.foldlM after? w := by
  induction history generalizing w with
  | nil => rfl
  | cons m rest ih =>
    rw [List.foldlM_cons, run?]
    exact Option.bind_congr fun u _ => ih u

/-- A history is run through its first moment and then the others. -/
theorem run?_cons_eq_some_iff {later : List Moment} :
    w.run? (m :: later) = some v ↔ ∃ u, w.after? m = some u ∧ u.run? later = some v :=
  Option.bind_eq_some_iff

/-- A history is run through one part after the other. -/
theorem run?_append_eq_some_iff {past later : List Moment} :
    w.run? (past ++ later) = some v ↔ ∃ u, w.run? past = some u ∧ u.run? later = some v := by
  simp only [run?_eq_foldlM]
  exact foldlM_append_eq_some_iff

/-- A history is run through what comes before a moment, the moment itself, and what comes after it.
-/
theorem run?_append_cons_eq_some_iff {past later : List Moment} :
    w.run? (past ++ m :: later) = some v ↔
      ∃ x y, w.run? past = some x ∧ x.after? m = some y ∧ y.run? later = some v := by
  simp only [run?_eq_foldlM]
  exact foldlM_append_cons_eq_some_iff

/-- What holds at the start, and after every moment if it held before, holds after every history. -/
theorem run?_induction {P : List Moment → Watch → Prop} {history : List Moment} (hstart : P [] w)
    (hstep : ∀ past u m v, P past u → u.after? m = some v → P (past ++ [m]) v)
    (h : w.run? history = some v) : P history v := by
  rw [run?_eq_foldlM] at h
  exact foldlM_induction hstart hstep h

/-! ## Accounts -/

namespace Undergoes

variable {o : Occurrence}

/-- No step changes the capacity of a queue. -/
theorem capacity_eq (h : w.Undergoes o v) : v.queue.capacity = w.queue.capacity := by
  cases h <;> rfl

/-- A scheduler is there until it goes away. -/
theorem receiving_iff (h : w.Undergoes o v) :
    v.queue.receiving = true ↔ w.queue.receiving = true ∧ o ≠ .close := by
  cases h <;> simp [withQueue]

/-- What is queued is lost with a wakeup, and what is accepted is added to it otherwise, as long as
the scheduler is there. -/
theorem signals_eq (h : w.Undergoes o v) (halive : v.queue.receiving = true) :
    v.queue.signals = if o.isWakeup then [] else w.queue.signals ++ o.accepted?.toList := by
  cases h with
  | accepted _ _ _ => rfl
  | signalled _ _ => rfl
  | ticked _ hqueued _ => exact hqueued
  | closed _ => cases halive
  | _ => exact (List.append_nil _).symm

/-- Somebody waits only if a wait was begun, or was going on and has not ended. -/
theorem waiting_iff (h : w.Undergoes o v) :
    v.waiting = true ↔ o = .wait ∨ w.waiting = true ∧ o.isWakeup = false ∧ o ≠ .close := by
  cases h <;> simp [withQueue, Occurrence.isWakeup]

/-- A wait is only begun for a scheduler that is there. -/
theorem receiving_of_wait (h : w.Undergoes .wait v) : w.queue.receiving = true := by
  cases h
  assumption

end Undergoes

/-- A history accounts for a scheduler: for whether it is still there, and, while it is there, for
what is queued.  Nobody waits for a scheduler that is gone. -/
structure Accounted (capacity : Nat) (history : List Moment) (w : Watch) : Prop where
  capacity : w.queue.capacity = max capacity 1
  alive : w.queue.receiving = true ↔ ∀ m ∈ history, m.what ≠ .close
  queued : w.queue.receiving = true → w.queue.signals = acceptedSince history
  waiting : w.waiting = true → w.queue.receiving = true

variable {capacity : Nat} {past history : List Moment}

/-- An account is kept through everything that can happen. -/
theorem Accounted.after (h : Accounted capacity past w) (hafter : w.after? m = some v) :
    Accounted capacity (past ++ [m]) v := by
  obtain ⟨-, hundergoes⟩ := after?_eq_some_iff.1 hafter
  refine ⟨hundergoes.capacity_eq.trans h.capacity, ?_, fun halive => ?_, fun hwaiting => ?_⟩
  · rw [hundergoes.receiving_iff, List.forall_mem_append, List.forall_mem_singleton, ← h.alive]
  · rw [hundergoes.signals_eq halive, h.queued (hundergoes.receiving_iff.1 halive).1]
    cases hwakeup : m.what.isWakeup with
    | true => rw [if_pos rfl, acceptedSince_concat_of_isWakeup hwakeup]
    | false => rw [if_neg Bool.false_ne_true, acceptedSince_concat_of_not_isWakeup hwakeup]
  · rw [hundergoes.receiving_iff]
    rcases hundergoes.waiting_iff.1 hwaiting with hwait | ⟨hbefore, -, hopen⟩
    · rw [hwait] at hundergoes ⊢
      exact ⟨hundergoes.receiving_of_wait, by simp⟩
    · exact ⟨h.waiting hbefore, hopen⟩

/-- Every history of a scheduler accounts for it. -/
theorem accounted_of_run? {unit now period : Nat}
    (h : (start unit now period capacity).run? history = some w) : Accounted capacity history w :=
  run?_induction
    ⟨rfl, by simp [start, Scheduler.make, Queue.make], fun _ => rfl,
      fun hwaiting => absurd hwaiting Bool.false_ne_true⟩
    (fun _ _ _ _ hpast hafter => hpast.after hafter) h

end Watch

end SidecarAgent.Refresh
