import SidecarAgent.Refresh.Scheduler

/-!
# A wait in steps

A wait looks for a signal first, and then for a tick that is due.  If there is neither it sleeps,
and begins anew when it is woken up.  If there is either, this is the reason for which the wait is
going to end; but first it discards what is still queued, one signal after the other, until it finds
none.

Whoever sends a signal does not wait for a wait, so that a signal may come between any two of these
steps.
-/

namespace SidecarAgent.Refresh

/-- What a wait does next: it looks for a signal or for a tick, or it empties the queue before it
ends for some reason. -/
inductive Stage where
  | receive
  | tick
  | drain (reason : Wakeup)
  deriving DecidableEq, Repr

/-- What a step of a wait comes to. -/
inductive Finding where
  | signal (key : String)
  | noSignal
  | tick
  | noTick
  | discarded (key : String)
  | finished (reason : Wakeup)
  deriving DecidableEq, Repr

namespace Scheduler

/-- A step of a wait at a stage: what it comes to, what it leaves of the scheduler, and the stage
behind it unless the wait is over. -/
def step (s : Scheduler) (now : Nat) : Stage → Finding × Scheduler × Option Stage
  | .receive =>
    match s.queue.receive? with
    | some (key, queue) => (.signal key, { s with queue := queue }, some (.drain (.signal key)))
    | none => (.noSignal, s, some .tick)
  | .tick =>
    if s.interval.isDue now then
      (.tick, { s with interval := s.interval.tick now }, some (.drain .tick))
    else (.noTick, s, some .receive)
  | .drain reason =>
    match s.queue.receive? with
    | some (key, queue) => (.discarded key, { s with queue := queue }, some (.drain reason))
    | none => (.finished reason, s, none)

end Scheduler

end SidecarAgent.Refresh
