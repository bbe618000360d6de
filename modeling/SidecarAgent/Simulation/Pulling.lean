import SidecarAgent.Simulation.Asking
import SidecarAgent.Simulation.Machine

/-!
# Pulling and refreshing

What a rehearsal does with sources: pulling their snapshots, one process at a time for each source,
refreshing managers from them, and the loops that refresh polled sources whenever their schedulers
say so.
-/

namespace SidecarAgent.Simulation

open Config
open Discovery (Cluster DiscoveryError Dialogue)
open Refresh (Wakeup)

namespace Act

/-! ## Locks -/

/-- Waits for the lock of a source. -/
def acquire (number : Nat) : Act Unit := do
  let lock? : World → Option Lock := fun w =>
    match w.sources[number]? with
    | some (.polled _ _ _ lock _) => some lock
    | _ => none
  match lock? (← .state) with
  | none => return
  | some lock =>
    let ticket := lock.tickets
    .modify fun w => w.modifyLock number fun l =>
      ⟨l.tickets + 1, l.holders ++ [ticket]⟩
    .waitUntil fun w => ((lock? w).bind fun l => l.holders.head?) = some ticket

/-- Hands the lock of a source on. -/
def release (number : Nat) : Act Unit :=
  .modify fun w => w.modifyLock number fun l => { l with holders := l.holders.drop 1 }

/-! ## Pulling -/

/-- A value that stands for a cluster name: the number of its bytes, as a byte. -/
def nameValue (name : String) : Value := .raw [UInt8.ofNat name.utf8ByteSize]

/-- The snapshot with a key for every cluster name. -/
def namesSnapshot (clusters : List Cluster) : Snapshot :=
  KeyMap.ofList (clusters.map fun c => (c.name, nameValue c.name))

/-- The dialogue in which a snapshot is pulled. -/
def pulling (pull : Pull) (previous : Snapshot) : Dialogue (Except DiscoveryError Snapshot) :=
  match pull with
  | .egressRules => Egress.pull
  | .endpointSubsets => Endpoint.pull previous
  | .clusterNames => Dialogue.listClusters.map fun r => r.map namesSnapshot

/-- Pulls a snapshot for a polled source. -/
def pullFor (source : PolledSource) (pull : Pull) : Act (Except DiscoveryError Snapshot) := do
  enter source.beginNotes
  let pulled ← carryOut (pulling pull source.current)
  enter source.endNotes
  return pulled

/-- Why a source that is not there has nothing. -/
def absent : SourceError := .notFound "everything"

/-- Pulls the whole snapshot of a source. -/
def configurations (number : Nat) : Act (Except SourceError Snapshot) := do
  match (← .state).sources[number]? with
  | none => return .error absent
  | some (.fixed _ _ entries failing) => return if failing then .error absent else .ok entries
  | some (.ruleFile file) => return .ok file.snapshot
  | some (.polled _ _ _ _ _) =>
    acquire number
    match (← .state).sources[number]? with
    | some (.polled source pull _ _ _) =>
      let pulled ← pullFor source pull
      .modify fun w => w.modifyPolled number fun s => (s.replace pulled).1
      release number
      return (source.replace pulled).2
    | _ => return .error absent

/-- Refreshes a polled source, and hands the changes on before anybody else can pull. -/
def refreshWith (number : Nat) (callback : Event → World → World) :
    Act (Except SourceError (List Event)) := do
  acquire number
  match (← .state).sources[number]? with
  | some (.polled source pull _ _ _) =>
    let pulled ← pullFor source pull
    let (after, result) := source.refresh pulled
    .modify fun w => w.modifyPolled number fun _ => after
    if let .ok events := result then
      enter (source.eventNotes events)
      events.forM fun e => Process.modify (callback e)
    release number
    return result
  | _ => return .error absent

/-- Refreshes a polled source. -/
def refreshed (number : Nat) : Act (Except SourceError (List Event)) :=
  refreshWith number fun _ w => w

/-- Asks a source for its changes if it keeps track of them.  There is no answer if it does not. -/
def syncChanges (number : Nat) : Act (Option (Except SourceError (List Event))) := do
  match (← .state).sources[number]? with
  | some (.polled _ _ _ _ _) => return some (← refreshed number)
  | _ => return none

/-! ## Managers -/

/-- Asks a source on behalf of a manager: for its changes, or else for everything. -/
def ask (number : Nat) : Act Answer := do
  match ← syncChanges number with
  | some (.ok events) => return .changed events
  | some (.error _) => return .failed
  | none =>
    match ← configurations number with
    | .ok snapshot => return .everything snapshot
    | .error _ => return .failed

/-- Adds a source to a manager, with what it has to begin with. -/
def addSource (manager : String) (number : Nat) : Act Unit := do
  match (← .state).sources[number]? with
  | none => return
  | some source =>
    let pulled ← configurations number
    .modify fun w =>
      w.carryOut manager
        ((w.manager manager).addSource source.name source.priority number pulled.toOption)

/-- Asks some sources of a manager, and enters what they answer. -/
def refreshSources (manager : String) :
    List (String × Nat) → List (String × Snapshot) → Act Unit
  | [], pulled => .modify fun w => w.carryOut manager ((w.manager manager).replaceAll pulled)
  | (name, number) :: rest, pulled => do
    let answer ← ask number
    .modify fun w => w.carryOut manager ((w.manager manager).enterAnswer name answer)
    refreshSources manager rest (pulled ++ answer.pulled name)

/-- Refreshes a manager from its sources. -/
def refresh (manager : String) : Act Unit := do
  let sources := ((← .state).manager manager).view.sources
  refreshSources manager (sources.map fun r => (r.name, r.source)) []

/-! ## Schedulers and loops -/

/-- Sets the timer of a scheduler's next tick, unless it is set. -/
def armPacer (pacer : Nat) : Act Unit := do
  match (← .state).pacers[pacer]? with
  | some ⟨scheduler, none⟩ =>
    let t ← .setTimer scheduler.interval.deadline
    .modify fun w => w.modifyPacer pacer fun p => { p with timer := some t }
  | _ => return

/-- Waits until a scheduler wakes up.  One that is not there ticks at once. -/
def wakeup (pacer : Nat) : Act Wakeup := do
  let wake? : World → Nat → Option (Wakeup × Refresh.Scheduler) := fun w now =>
    w.pacers[pacer]?.bind fun p => p.scheduler.wake? now
  if (wake? (← .state) (← .now)).isNone then armPacer pacer
  let timers := ((← .state).pacers[pacer]?.bind Pacer.timer).toList
  .await timers (fun w now => w.pacers[pacer]?.isNone || (wake? w now).isSome) (.done ())
  match wake? (← .state) (← .now) with
  | none => return .tick
  | some (w, scheduler) =>
    .modify fun world => world.modifyPacer pacer fun p =>
      { scheduler := scheduler, timer := if w = .tick then none else p.timer }
    return w

/-- One round of the loop that refreshes a source for a manager. -/
def loopRound (manager : String) (number : Nat) : Act Unit := do
  match (← .state).sources[number]? with
  | some (.polled source _ pacer _ _) =>
    let _ ← wakeup pacer
    match ← refreshWith number fun e w => w.apply manager e with
    | .ok _ => return
    | .error e => enter [source.failureNote e]
  | _ => .waitUntil fun _ => false

/-- Sends a signal to a scheduler after some time. -/
def sendLater (millis pacer : Nat) (key : String) : Act Unit := do
  .sleep millis
  .modify fun w => (w.send pacer key).1

end Act

/-- Takes the loop of a source, unless it is taken. -/
def World.takeLoop (w : World) (number : Nat) : World × Bool :=
  match w.sources[number]? with
  | some (.polled source pull pacer lock false) =>
    (w.modifySource number fun _ => .polled source pull pacer lock true, true)
  | _ => (w, false)

/-- The loops that a manager can start, each for a source of it whose loop is not taken, and the
world in which they are. -/
def World.startLoops (w : World) (manager : String) : World × List (Strand World) :=
  (w.manager manager).view.sources.foldl
    (fun (w, strands) r =>
      let (w, taken) := w.takeLoop r.source
      (w, if taken then strands ++ [.forever (Act.loopRound manager r.source)] else strands))
    (w, [])

end SidecarAgent.Simulation
