import SidecarAgent.Refresh.Scheduler
import SidecarAgent.Time.Duration

/-!
# Limits of a schedule

Not every period and capacity makes a schedule.  The first tick has to be at a time that can be
told, the period has to be positive, and the queue of signals can only be so large.
-/

namespace SidecarAgent.Refresh

open Time (Duration)

/-- Why a schedule cannot be kept. -/
inductive ScheduleFault where
  | deadlineOverflow
  | noPeriod
  | queueTooLarge
  deriving DecidableEq, Repr

/-- The wording of a fault. -/
def ScheduleFault.message : ScheduleFault → String
  | deadlineOverflow => "overflow when adding duration to instant"
  | noPeriod => "the period must not be zero"
  | queueTooLarge => "a queue cannot have this capacity"

/-- Times are told in seconds below this bound. -/
def secondsBound : Nat := Nat.pow 2 63

/-- The largest capacity of a queue. -/
def maxCapacity : Nat := 2305843009213693951

/-- The time of the first tick of a schedule that is made at some time. -/
def firstTick (now period : Duration) : Duration := .ofNanos (now.toNanos + period.toNanos)

/-- What keeps a period and a capacity from making a schedule at some time, the first thing of
several. -/
def scheduleFault? (now period : Duration) (capacity : Nat) : Option ScheduleFault :=
  if secondsBound ≤ (firstTick now period).seconds then some .deadlineOverflow
  else if period.toNanos = 0 then some .noPeriod
  else if maxCapacity < capacity then some .queueTooLarge
  else none

/-- A period and a capacity make a schedule when the first tick is at a time that can be told, the
period is positive and the capacity within its limit. -/
theorem scheduleFault?_eq_none_iff (now period : Duration) (capacity : Nat) :
    scheduleFault? now period capacity = none ↔
      (firstTick now period).seconds < secondsBound ∧ 0 < period.toNanos ∧
        capacity ≤ maxCapacity := by
  unfold scheduleFault?
  split
  · simp; omega
  · split
    · simp; omega
    · split
      · simp; omega
      · simp; omega

end SidecarAgent.Refresh
