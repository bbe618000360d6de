import SidecarAgent.Simulation.Process

/-!
# Running processes

A machine runs processes over one state, one at a time.  A few of them are in front: the machine
runs until they are finished.  Those in the background run while the ones in front wait, in the
order in which they became ready; timers that go off together wake them in the order of their
setting.  Time moves only when every process waits, and then straight to the next timer.
-/

namespace SidecarAgent.Simulation

variable {σ α : Type}

/-- Where a process has stopped: at its end, waiting, or giving way. -/
inductive Stop (σ α : Type) where
  | finished (a : α)
  | waiting (timers : List Timer) (ready : σ → Nat → Bool) (next : Process σ α)
  | givingWay (next : Process σ α)

namespace Stop

/-- The result of a process that is finished. -/
def result? : Stop σ α → Option α
  | finished a => some a
  | _ => none

/-- What is left of a process that can go on. -/
def next? (s : σ) (now : Nat) : Stop σ α → Option (Process σ α)
  | finished _ => none
  | waiting _ ready next => if ready s now then some next else none
  | givingWay next => some next

/-- What is left of a process whose waiting has come to an end. -/
def awake (s : σ) (now : Nat) : Stop σ α → Bool
  | waiting _ ready _ => ready s now
  | _ => false

/-- The timers that a process waits for. -/
def timers : Stop σ α → List Timer
  | waiting timers _ _ => timers
  | _ => []

end Stop

/-- A process in the background: where it has stopped, and what it does again and again. -/
structure Strand (σ : Type) where
  stop : Stop σ Unit
  again : Option (Process σ Unit)

namespace Strand

/-- A process that runs once. -/
def once (p : Process σ Unit) : Strand σ := ⟨.givingWay p, none⟩

/-- A process that starts anew whenever it is finished. -/
def forever (p : Process σ Unit) : Strand σ := ⟨.givingWay p, some p⟩

end Strand

/-- A state, the time, the processes in the background, and the numbers of those that are ready. -/
structure Machine (σ : Type) where
  state : σ
  now : Nat := 0
  timerCount : Nat := 0
  strands : List (Strand σ) := []
  queue : List Nat := []

namespace Machine

/-! ## Steps -/

/-- Queues processes, each of them once. -/
def enqueue (m : Machine σ) (numbers : List Nat) : Machine σ :=
  { m with
    queue := numbers.foldl
      (fun queue n => if queue.contains n then queue else queue ++ [n]) m.queue }

/-- Adds a process in the background. -/
def spawn (m : Machine σ) (strand : Strand σ) : Machine σ :=
  { m with
    strands := m.strands ++ [strand]
    queue := m.queue ++ [m.strands.length] }

/-- The numbers of the processes in the background whose waiting has come to an end. -/
def awake (m : Machine σ) : List Nat :=
  m.strands.zipIdx.filterMap fun (s, n) => if s.stop.awake m.state m.now then some n else none

/-- Runs a process until it stops.  Every change wakes the processes that were waiting for it. -/
def run : Process σ α → Machine σ → Stop σ α × Machine σ
  | .done a, m => (.finished a, m)
  | .look next, m => run (next m.state) m
  | .change f next, m =>
    let m := { m with state := f m.state }
    run next (m.enqueue m.awake)
  | .clock next, m => run (next m.now) m
  | .timer deadline next, m =>
    run (next ⟨deadline, m.timerCount⟩) { m with timerCount := m.timerCount + 1 }
  | .await timers ready next, m =>
    if ready m.state m.now then run next m else (.waiting timers ready next, m)
  | .pause next, m => (.givingWay next, m)

/-- Runs a process in the background until it stops, again and again if it starts anew, `steps`
times at most. -/
def runStrand (m : Machine σ) (number : Nat) (again : Option (Process σ Unit)) :
    (steps : Nat) → Process σ Unit → Option (Machine σ)
  | 0, _ => none
  | steps + 1, p =>
    match run p m with
    | (.finished _, m) =>
      match again with
      | some body => runStrand m number again steps body
      | none => some { m with strands := m.strands.set number ⟨.finished (), none⟩ }
    | (stop, m) =>
      let m := { m with strands := m.strands.set number ⟨stop, again⟩ }
      match stop with
      | .givingWay _ => some { m with queue := m.queue ++ [number] }
      | _ => some m

/-- Runs the processes that are queued, `steps` of them at most, until none is. -/
def drain (m : Machine σ) : (steps : Nat) → Option (Machine σ)
  | 0 => none
  | steps + 1 =>
    match m.queue with
    | [] => some m
    | n :: rest =>
      let m := { m with queue := rest }
      match m.strands[n]? with
      | none => drain m steps
      | some strand =>
        match strand.stop.next? m.state m.now with
        | none => drain m steps
        | some p =>
          match runStrand m n strand.again (steps + 1) p with
          | some m => drain m steps
          | none => none

/-! ## Time -/

/-- The next time at which a timer goes off. -/
def nextTime? (m : Machine σ) (front : List (Stop σ α)) : Option Nat :=
  let timers := front.flatMap Stop.timers ++ m.strands.flatMap fun s => s.stop.timers
  ((timers.map Timer.deadline).filter fun d => m.now < d).min?

/-- The first of the timers that have gone off for a process in the background. -/
def firstTimer? (m : Machine σ) (s : Strand σ) : Option Timer :=
  let due := s.stop.timers.filter fun t => t.deadline ≤ m.now
  due.foldl
    (fun best t =>
      match best with
      | none => some t
      | some b => if t.number < b.number then some t else some b) none

/-- Moves to a time, and wakes the processes in the background whose timers have gone off. -/
def advance (m : Machine σ) (time : Nat) : Machine σ :=
  let m := { m with now := time }
  let woken := m.strands.zipIdx.filterMap fun (s, n) => (m.firstTimer? s).map fun t => (t, n)
  let inOrder := woken.mergeSort fun a b => a.1.number ≤ b.1.number
  m.enqueue (inOrder.map Prod.snd)

/-! ## Running to an end -/

/-- Lets the processes in front go on, each until it stops. -/
def runFront (m : Machine σ) : List (Stop σ α) → List (Stop σ α) × Machine σ
  | [] => ([], m)
  | s :: rest =>
    let (s, m) := match s.next? m.state m.now with
      | some p => m.run p
      | none => (s, m)
    let (rest, m) := runFront m rest
    (s :: rest, m)

/-- Runs until the processes in front are finished, and gives their results. -/
def finish (m : Machine σ) (front : List (Stop σ α)) :
    (steps : Nat) → Option (List α × Machine σ)
  | 0 => none
  | steps + 1 =>
    let (front, m) := m.runFront front
    match front.mapM Stop.result? with
    | some results => some (results, m)
    | none =>
      match m.drain (steps + 1) with
      | none => none
      | some m =>
        if front.any fun s => (s.next? m.state m.now).isSome then finish m front steps
        else
          match m.nextTime? front with
          | none => none
          | some time => finish (m.advance time) front steps

/-- How many steps a run may take. -/
def stepLimit : Nat := 1000000000

/-- Runs processes in front to their ends.  There is no result if they wait for something that never
comes. -/
def complete (m : Machine σ) (front : List (Process σ α)) : Option (List α × Machine σ) :=
  m.finish (front.map Stop.givingWay) stepLimit

end Machine

end SidecarAgent.Simulation
