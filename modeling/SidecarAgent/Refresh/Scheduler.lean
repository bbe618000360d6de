import SidecarAgent.Refresh.Queue

/-!
# Pacing a refresh loop

A scheduler wakes a refresh loop once per period, or earlier when a signal asks for it.  Signals
that come while a refresh is going on are answered by one wakeup together.  Ticks are not made up
for: one that is taken late is followed by the next a full period after it was taken.

Times are told in a unit of which a millisecond has a whole number.  It is the millisecond itself
where nothing else is said.
-/

namespace SidecarAgent.Refresh

/-- The tolerance within which a late tick leaves the schedule alone, in milliseconds. -/
def tickTolerance : Nat := 5

/-- A sequence of ticks, of which the next is due at a deadline. -/
structure Interval where
  period : Nat
  deadline : Nat
  tolerance : Nat := tickTolerance
  deriving DecidableEq, Repr

namespace Interval

/-- The interval whose first tick is due one period from now, by a clock with so many units in a
millisecond. -/
def start (now period : Nat) (unit : Nat := 1) : Interval :=
  ⟨period, now + period, tickTolerance * unit⟩

/-- A tick is due from its deadline on. -/
def isDue (i : Interval) (now : Nat) : Bool := i.deadline ≤ now

/-- The interval after a tick was taken: on schedule, or from now on if the tick is too late. -/
def tick (i : Interval) (now : Nat) : Interval :=
  { i with deadline := if i.deadline + i.tolerance < now then now + i.period
                       else i.deadline + i.period }

end Interval

/-- Why a refresh loop woke up: its period is over, or a signal asked for it.  Of several signals
the first is named. -/
inductive Wakeup where
  | tick
  | signal (key : String)
  deriving DecidableEq, Repr

/-- The key of a signal. -/
def Wakeup.key? : Wakeup → Option String
  | tick => none
  | signal key => some key

/-- The pace of a refresh loop: the queue of signals to it, and its ticks. -/
structure Scheduler where
  queue : Queue
  interval : Interval
  deriving DecidableEq, Repr

namespace Scheduler

/-- A scheduler with nothing queued whose first tick is due one period from now. -/
def make (now period capacity : Nat) (unit : Nat := 1) : Scheduler :=
  ⟨Queue.make capacity, Interval.start now period unit⟩

/-- Asks for an early wakeup, and says whether the signal was accepted. -/
def send (s : Scheduler) (key : String) : Scheduler × Bool :=
  let (queue, accepted) := s.queue.send key
  ({ s with queue := queue }, accepted)

/-- A wait that nothing interrupts: it wakes up if there is a reason to, a queued signal first, then
a tick that is due, and leaves the queue empty. -/
def wake? (s : Scheduler) (now : Nat) : Option (Wakeup × Scheduler) :=
  match s.queue.reception with
  | .signal key => some (.signal key, { s with queue := s.queue.drain })
  | .nothing | .finished =>
    if s.interval.isDue now then
      some (.tick, ⟨s.queue.drain, s.interval.tick now⟩)
    else none

/-- The time at which a wait ends that begins now, if no further signal comes. -/
def wakeTime (s : Scheduler) (now : Nat) : Nat :=
  match s.queue.reception with
  | .signal _ => now
  | .nothing | .finished => max now s.interval.deadline

variable {s : Scheduler} {key : String} {rest : List String} {now : Nat}

/-- A signal is accepted by a scheduler that is there and has room for it. -/
theorem send_of_room (halive : s.queue.receiving = true)
    (hroom : s.queue.signals.length < s.queue.capacity) :
    s.send key = (⟨{ s.queue with signals := s.queue.signals ++ [key] }, s.interval⟩, true) := by
  unfold send Queue.send
  rw [if_pos (by simp [halive, hroom])]

/-- A signal to a full queue, or to nobody, is refused. -/
theorem send_of_full
    (hfull : s.queue.receiving = true → s.queue.capacity ≤ s.queue.signals.length) :
    s.send key = (s, false) := by
  unfold send Queue.send
  rw [if_neg (by simpa using hfull)]

/-- A signal is accepted or refused, by whether there is room for it. -/
theorem send_cases (s : Scheduler) (key : String) :
    s.queue.receiving = true ∧ s.queue.signals.length < s.queue.capacity ∧
        s.send key = (⟨{ s.queue with signals := s.queue.signals ++ [key] }, s.interval⟩, true) ∨
      (s.queue.receiving = true → s.queue.capacity ≤ s.queue.signals.length) ∧
        s.send key = (s, false) := by
  by_cases hroom : s.queue.receiving = true ∧ s.queue.signals.length < s.queue.capacity
  · exact Or.inl ⟨hroom.1, hroom.2, send_of_room hroom.1 hroom.2⟩
  · have hfull : s.queue.receiving = true → s.queue.capacity ≤ s.queue.signals.length :=
      fun halive => Nat.not_lt.1 fun hlt => hroom ⟨halive, hlt⟩
    exact Or.inr ⟨hfull, send_of_full hfull⟩

/-- A signal that is queued wakes up at any time, and nothing stays queued. -/
theorem wake?_of_queued (h : s.queue.signals = key :: rest) :
    s.wake? now = some (.signal key, ⟨{ s.queue with signals := [] }, s.interval⟩) := by
  unfold wake? Queue.reception
  rw [h]
  rfl

/-- With nothing queued, nothing is found, now or ever. -/
theorem reception_of_empty (h : s.queue.signals = []) :
    s.queue.reception = .finished ∨ s.queue.reception = .nothing := by
  unfold Queue.reception
  rw [h]
  by_cases hsenders : s.queue.senders = 0
  · exact .inl (if_pos hsenders)
  · exact .inr (if_neg hsenders)

/-- With nothing queued, a tick wakes up from its deadline on. -/
theorem wake?_of_empty (h : s.queue.signals = []) :
    s.wake? now =
      if s.interval.deadline ≤ now then some (.tick, ⟨s.queue, s.interval.tick now⟩) else none := by
  have hdrain : s.queue.drain = s.queue := by
    rw [Queue.drain, ← h]
  unfold wake? Interval.isDue
  rcases reception_of_empty h with hreception | hreception <;> rw [hreception, hdrain] <;> simp

/-- A wait that finds a signal ends where it begins. -/
theorem wakeTime_of_queued (h : s.queue.signals = key :: rest) : s.wakeTime now = now := by
  unfold wakeTime Queue.reception
  rw [h]

/-- A wait that finds no signal ends with the tick, if no signal comes. -/
theorem wakeTime_of_empty (h : s.queue.signals = []) :
    s.wakeTime now = max now s.interval.deadline := by
  unfold wakeTime
  rcases reception_of_empty h with hreception | hreception <;> rw [hreception]

/-- A wait has an end at the time that is foretold. -/
theorem wake?_wakeTime (s : Scheduler) (now : Nat) : (s.wake? (s.wakeTime now)).isSome := by
  have hdue : s.interval.isDue (max now s.interval.deadline) = true :=
    decide_eq_true (Nat.le_max_right _ _)
  unfold wake? wakeTime
  cases s.queue.reception with
  | signal key => rfl
  | nothing => simp [hdue]
  | finished => simp [hdue]

/-- Nothing is queued after a wakeup. -/
theorem drained_of_wake? {s t : Scheduler} {now : Nat} {w : Wakeup}
    (h : s.wake? now = some (w, t)) :
    t.queue.signals = [] := by
  unfold wake? at h
  split at h
  · cases h; rfl
  all_goals
    split at h
    · cases h; rfl
    · cases h

end Scheduler

end SidecarAgent.Refresh
