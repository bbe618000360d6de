/-!
# Processes in virtual time

A process is a computation that shares a state with others and passes time by waiting.  Between two
waits it has the state to itself.  What it waits for is a condition on the state and the time;
timers say at which times the condition has to be looked at again.

Times are whole milliseconds.
-/

namespace SidecarAgent.Simulation

/-- A timer: when it goes off, and its place among the timers in the order of their setting. -/
structure Timer where
  deadline : Nat
  number : Nat
  deriving DecidableEq, Repr

/-- A computation over a shared state, which may wait. -/
inductive Process (σ α : Type) where
  | done (a : α)
  | look (next : σ → Process σ α)
  | change (f : σ → σ) (next : Process σ α)
  | clock (next : Nat → Process σ α)
  | timer (deadline : Nat) (next : Timer → Process σ α)
  | await (timers : List Timer) (ready : σ → Nat → Bool) (next : Process σ α)
  | pause (next : Process σ α)

namespace Process

variable {σ α β : Type}

/-- Continues a process with another one. -/
def bind : Process σ α → (α → Process σ β) → Process σ β
  | done a, f => f a
  | look next, f => look fun s => (next s).bind f
  | change g next, f => change g (next.bind f)
  | clock next, f => clock fun now => (next now).bind f
  | timer deadline next, f => timer deadline fun t => (next t).bind f
  | await timers ready next, f => await timers ready (next.bind f)
  | pause next, f => pause (next.bind f)

instance : Monad (Process σ) where
  pure := done
  bind := bind

/-- The state. -/
def state : Process σ σ := look done

/-- The current time. -/
def now : Process σ Nat := clock done

/-- Changes the state. -/
def modify (f : σ → σ) : Process σ Unit := change f (done ())

/-- Sets a timer. -/
def setTimer (deadline : Nat) : Process σ Timer := timer deadline done

/-- Waits until one of some timers has gone off. -/
def waitFor (timers : List Timer) : Process σ Unit :=
  await timers (fun _ now => timers.any fun t => t.deadline ≤ now) (done ())

/-- Waits until a condition on the state holds. -/
def waitUntil (condition : σ → Bool) : Process σ Unit :=
  await [] (fun s _ => condition s) (done ())

/-- Lets every process that is ready go first. -/
def giveWay : Process σ Unit := pause (done ())

/-- Lets some time pass. -/
def sleep (millis : Nat) : Process σ Unit := do
  let t ← setTimer ((← now) + millis)
  waitFor [t]

end Process

end SidecarAgent.Simulation
