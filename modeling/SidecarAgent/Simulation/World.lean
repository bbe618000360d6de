import SidecarAgent.Config.Manager
import SidecarAgent.Config.Source
import SidecarAgent.DataPlane
import SidecarAgent.Egress.Backend
import SidecarAgent.Egress.Publisher
import SidecarAgent.Endpoint.Discovered
import SidecarAgent.Endpoint.Publisher
import SidecarAgent.Kubernetes.DestinationRule
import SidecarAgent.Refresh.Scheduler
import SidecarAgent.Simulation.ControlPlane
import SidecarAgent.Simulation.Process

/-!
# The world of a rehearsal

What the processes of a rehearsal share: a control plane and a client's cursors on it, a way to look
tags up, sources, managers, listeners, caches, data planes and schedulers, and what was noted.
Managers, recorders and caches are there when they are first named.
-/

namespace SidecarAgent.Simulation

open Config (Event Manager PolledSource Snapshot SourceError)
open Discovery
open Refresh (Scheduler)
open Telemetry (Ledger LogEntry Note)
open Time (Duration)

/-! ## Parts -/

/-- Where the tags of subsets come from. -/
inductive Tagging where
  | none
  | table
  | rules
  deriving DecidableEq, Repr

/-- A lock that is handed on in the order in which it was asked for: who holds it and who waits for
it, by tickets. -/
structure Lock where
  tickets : Nat := 0
  holders : List Nat := []

/-- A scheduler, and the timer of its next tick once somebody has waited for it. -/
structure Pacer where
  scheduler : Scheduler
  timer : Option Timer := none

/-- What a polled source builds its snapshots from. -/
inductive Pull where
  | egressRules
  | endpointSubsets
  | clusterNames
  deriving DecidableEq, Repr

/-- A source.  The snapshot of a fixed one is set from outside, and it can be told to fail; a polled
one has a lock, so that one process pulls at a time, and a scheduler, which one loop can use. -/
inductive Source where
  | fixed (name : String) (priority : Int) (entries : Snapshot) (failing : Bool)
  | ruleFile (file : Egress.RuleFile)
  | polled (source : PolledSource) (pull : Pull) (pacer : Nat) (lock : Lock) (looping : Bool)

namespace Source

/-- The name of a source. -/
def name : Source → String
  | fixed name _ _ _ => name
  | ruleFile _ => Egress.fileSourceName
  | polled source _ _ _ _ => source.name

/-- The priority of a source. -/
def priority : Source → Int
  | fixed _ priority _ _ => priority
  | ruleFile _ => Egress.fileSourcePriority
  | polled source _ _ _ _ => source.priority

/-- The scheduler that refreshes a source. -/
def pacer? : Source → Option Nat
  | polled _ _ pacer _ _ => some pacer
  | _ => none

/-- The snapshot in which keys are looked up. -/
def current : Source → Snapshot
  | fixed _ _ entries _ => entries
  | ruleFile file => file.snapshot
  | polled source _ _ _ _ => source.current

end Source

/-- Who listens to a manager. -/
inductive Listener where
  | recorder (name : String)
  | egressCache (name : String)
  | endpointCache (name : String)
  deriving DecidableEq, Repr

/-- A data plane: the caches that it reads, by name, and the schedulers it asks for refreshes. -/
structure Plane where
  caches : String := "main"
  egressTrigger : Option Nat := none
  endpointTrigger : Option Nat := none

/-! ## The whole -/

/-- The state of a rehearsal.  Sources and schedulers are numbered; a name stands for the last one
that was given it. -/
structure World where
  node : Node
  timeout : Duration
  tagging : Tagging := .table
  controlPlane : ControlPlane := {}
  cursors : Cursors := Cursors.start
  tagTable : List (SubsetQuery × Tags) := []
  tagsFailing : Bool := false
  cluster : Kubernetes.ListReply := ⟨Kubernetes.successStatus, .list []⟩
  clusterCalls : List String := []
  sources : List Source := []
  sourceNames : KeyMap Nat := ∅
  pacers : List Pacer := []
  pacerNames : KeyMap Nat := ∅
  managers : KeyMap (Manager Nat Listener) := ∅
  recorders : KeyMap (List Event) := ∅
  egressCaches : KeyMap Egress.Cache := ∅
  endpointCaches : KeyMap Endpoint.Cache := ∅
  planes : KeyMap Plane := ∅
  ledger : Ledger := {}
  log : List LogEntry := []

namespace World

/-- Enters notes into the metrics and the log. -/
def enter (w : World) (notes : List Note) : World :=
  { w with ledger := w.ledger.enter notes, log := w.log ++ Telemetry.logEntries notes }

/-! ## Looking parts up -/

/-- The manager of a name. -/
def manager (w : World) (name : String) : Manager Nat Listener := (w.managers.get? name).getD {}

/-- What a recorder has. -/
def recorded (w : World) (name : String) : List Event := (w.recorders.get? name).getD []

/-- The egress cache of a name. -/
def egressCache (w : World) (name : String) : Egress.Cache := (w.egressCaches.get? name).getD ∅

/-- The endpoint cache of a name. -/
def endpointCache (w : World) (name : String) : Endpoint.Cache :=
  (w.endpointCaches.get? name).getD ∅

/-- The data plane of a name. -/
def plane (w : World) (name : String) : Plane := (w.planes.get? name).getD {}

/-- The number of the source that a name stands for. -/
def sourceNumber? (w : World) (name : String) : Option Nat := w.sourceNames.get? name

/-- The source that a name stands for. -/
def source? (w : World) (name : String) : Option Source :=
  (w.sourceNumber? name).bind fun n => w.sources[n]?

/-- The scheduler that a trigger of a name reaches: that of a source, or else one of the name. -/
def trigger? (w : World) (name : String) : Option Nat :=
  ((w.source? name).bind Source.pacer?).or (w.pacerNames.get? name)

/-! ## Changing parts -/

/-- Changes a source. -/
def modifySource (w : World) (number : Nat) (f : Source → Source) : World :=
  { w with sources := w.sources.modify number f }

/-- Changes the lock of a source. -/
def modifyLock (w : World) (number : Nat) (f : Lock → Lock) : World :=
  w.modifySource number fun
    | .polled source pull pacer lock looping => .polled source pull pacer (f lock) looping
    | s => s

/-- Changes what a polled source has built. -/
def modifyPolled (w : World) (number : Nat) (f : PolledSource → PolledSource) : World :=
  w.modifySource number fun
    | .polled source pull pacer lock looping => .polled (f source) pull pacer lock looping
    | s => s

/-- Changes a scheduler. -/
def modifyPacer (w : World) (number : Nat) (f : Pacer → Pacer) : World :=
  { w with pacers := w.pacers.modify number f }

/-- Adds a source under a name. -/
def addSource (w : World) (name : String) (s : Source) : World :=
  { w with
    sources := w.sources ++ [s]
    sourceNames := w.sourceNames.insert name w.sources.length }

/-- Adds a scheduler, and gives its number. -/
def addPacer (w : World) (s : Scheduler) : World × Nat :=
  ({ w with pacers := w.pacers ++ [{ scheduler := s }] }, w.pacers.length)

/-- Sends a signal to a scheduler, and says whether it was accepted. -/
def send (w : World) (pacer : Nat) (key : String) : World × Bool :=
  match w.pacers[pacer]? with
  | none => (w, false)
  | some p =>
    let (scheduler, accepted) := p.scheduler.send key
    (w.modifyPacer pacer fun p => { p with scheduler := scheduler }, accepted)

/-! ## Listeners -/

/-- Hands an event to a listener. -/
def deliver (w : World) (listener : Listener) (e : Event) : World :=
  match listener with
  | .recorder name => { w with recorders := w.recorders.insert name (w.recorded name ++ [e]) }
  | .egressCache name =>
    let (cache, notes) := (w.egressCache name).onEvent e
    { w with egressCaches := w.egressCaches.insert name cache }.enter notes
  | .endpointCache name =>
    let (cache, notes) := (w.endpointCache name).onEvent e
    { w with endpointCaches := w.endpointCaches.insert name cache }.enter notes

/-- Carries out what an operation on a manager does. -/
def carryOut (w : World) (name : String) (effect : Manager.Effect Nat Listener) : World :=
  let w := { w with managers := w.managers.insert name effect.manager }.enter effect.notes
  effect.deliveries.foldl (fun w d => w.deliver d.1 d.2) w

/-- Enters an event into a manager. -/
def apply (w : World) (name : String) (e : Event) : World :=
  w.carryOut name ((w.manager name).apply e)

end World

end SidecarAgent.Simulation
