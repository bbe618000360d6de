import Mathlib.Logic.Function.Basic
import SidecarAgent.Agent.Startup
import SidecarAgent.Proofs.EndpointPublication
import SidecarAgent.Proofs.FailingDialogues
import SidecarAgent.Simulation.ControlPlane

/-!
# Cycles that fail

An agent at work has two sides, which refresh their sources in cycles and share the cursors of one
client (`Working`).  A cycle that fails leaves everything as it was but for the cursors, and these
are those of the last responses that could be decoded (`cycle_of_error`), at whichever of its
requests it fails (`session_error_iff`).
-/

namespace SidecarAgent.Agent

open Config
open Config.Manager (received)
open Discovery
open Endpoint (Driver)
open Telemetry (Note)

/-! ## The sides of an agent -/

/-- What an agent configures. -/
inductive Side where
  | egress
  | endpoints
  deriving DecidableEq

namespace Side

/-- The cache of a side. -/
def Cache : Side → Type
  | egress => Egress.Cache
  | endpoints => Endpoint.Cache

/-- A cache that nothing was entered into. -/
def emptyCache : (side : Side) → side.Cache
  | egress => (∅ : Egress.Cache)
  | endpoints => (∅ : Endpoint.Cache)

/-- How the cache of a side reacts to an event. -/
def onEvent : (side : Side) → side.Cache → Event → side.Cache × List Note
  | egress => Egress.Cache.onEvent
  | endpoints => Endpoint.Cache.onEvent

/-- The source of a side before its first pull. -/
def source : Side → PolledSource
  | egress => derivedSource
  | endpoints => discoveredSource

/-- How the source of a side pulls a snapshot after another one. -/
def pull : Side → Snapshot → Dialogue (Except DiscoveryError Snapshot)
  | egress, _ => Egress.pull
  | endpoints, previous => Endpoint.pull previous

/-- The pulls of both sides are strict. -/
theorem strict_pull (side : Side) (previous : Snapshot) : (side.pull previous).Strict := by
  cases side with
  | egress => exact Egress.strict_pull
  | endpoints => exact Endpoint.strict_pull previous

end Side

/-- A side at work: its source, its manager, what the manager has delivered to its listeners so far,
of whom the cache is the first, and the cache. -/
structure Branch (side : Side) where
  source : PolledSource
  manager : Manager Unit ℕ
  delivered : List (ℕ × Event)
  cache : side.Cache

namespace Branch

variable {side : Side}

/-- A side after its manager has done something. -/
def perform (b : Branch side) (effect : Manager.Effect Unit ℕ) : Branch side :=
  { b with
    manager := effect.manager
    delivered := b.delivered ++ effect.deliveries
    cache := (deliver side.onEvent b.cache (received 0 effect.deliveries)).1 }

/-- A side before its source is added. -/
def empty (side : Side) : Branch side :=
  ⟨side.source, Manager.listen {} "*" 0, [], side.emptyCache⟩

/-- A side begins when its source, which has been asked for the first time, is added to its manager.
-/
def begin (side : Side) (first : Except DiscoveryError Snapshot) : Branch side :=
  let (source, pulled) := side.source.replace first
  { empty side with source := source }.perform
    ((empty side).manager.addSource source.name source.priority () pulled.toOption)

/-- A side after its source has pulled a snapshot, or failed to, on behalf of a driver. -/
def refresh (b : Branch side) (driver : Driver) (result : Except DiscoveryError Snapshot) :
    Branch side :=
  let (source, changes) := b.source.refresh result
  { b with source := source }.perform (b.manager.run (driver.operations changes))

/-- A side with one more listener. -/
def listen (b : Branch side) (pattern : String) : Branch side :=
  b.perform (b.manager.run [.listen pattern])

/-- A side is orderly when the view of its manager is. -/
def Orderly (b : Branch side) : Prop := ∃ rs, b.manager.view.Orderly rs

/-- A side begins orderly. -/
theorem orderly_begin (side : Side) (first : Except DiscoveryError Snapshot) :
    (begin side first).Orderly := by
  have hempty : (empty side).manager.view.Orderly [] := Manager.orderly_empty
  exact ⟨_, hempty.register _⟩

/-- Whatever is done with the manager of an orderly side, the side stays orderly. -/
theorem Orderly.perform_run {b : Branch side} (h : b.Orderly) (source : PolledSource)
    (operations : List (Operation Unit)) :
    ({ b with source := source }.perform (b.manager.run operations)).Orderly := by
  obtain ⟨rs, hrs⟩ := h
  exact ⟨_, Manager.orderly_run hrs operations⟩

/-- A side whose manager has done nothing is as before. -/
theorem perform_nothing (b : Branch side) {effect : Manager.Effect Unit ℕ}
    (hmanager : effect.manager = b.manager) (hdeliveries : effect.deliveries = []) :
    b.perform effect = b := by
  unfold perform
  rw [hmanager, hdeliveries, List.append_nil]
  rfl

/-- A failed pull leaves an orderly side as it is. -/
theorem refresh_error {b : Branch side} (h : b.Orderly) (driver : Driver) (e : DiscoveryError) :
    b.refresh driver (.error e) = b := by
  obtain ⟨rs, hrs⟩ := h
  cases driver with
  | loop => exact b.perform_nothing rfl rfl
  | manager =>
    obtain ⟨hmanager, hdeliveries⟩ := Manager.refresh_failed hrs.resolved
    refine b.perform_nothing hmanager ?_
    show (b.manager.refresh fun _ => .failed).deliveries ++ [] = []
    rw [hdeliveries]
    rfl

end Branch

/-! ## An agent at work -/

/-- An agent at work: who it is, the cursors that it has on the control plane, and its sides. -/
structure Working where
  node : Node
  cursors : Cursors
  branch : (side : Side) → Branch side

namespace Working

/-- An agent begins to work when both of its sides have been asked for the first time. -/
def begin (node : Node) (egress endpoints : Answers) : Working :=
  let first := (Side.egress.pull ∅).answered node egress Cursors.start
  let second := (Side.endpoints.pull ∅).answered node endpoints first.cursors
  { node := node
    cursors := second.cursors
    branch := fun
      | .egress => Branch.begin .egress first.result
      | .endpoints => Branch.begin .endpoints second.result }

/-- The session in which a side pulls a snapshot. -/
def session (a : Working) (side : Side) (answers : Answers) :
    Session (Except DiscoveryError Snapshot) :=
  (side.pull (a.branch side).source.current).answered a.node answers a.cursors

/-- The exchanges in which a side pulls a snapshot. -/
def exchanges (a : Working) (side : Side) (answers : Answers) : List Exchange :=
  (side.pull (a.branch side).source.current).exchanges a.node answers a.cursors

/-- The agent after a cycle of one of its sides. -/
def cycle (a : Working) (side : Side) (driver : Driver) (answers : Answers) : Working :=
  let session := a.session side answers
  { a with
    cursors := session.cursors
    branch := Function.update a.branch side ((a.branch side).refresh driver session.result) }

/-- What happens to an agent at work: a side has a cycle, somebody begins to listen to a side, or an
exchange with the control plane comes to an end that is not part of any cycle. -/
inductive Happening where
  | cycle (side : Side) (driver : Driver) (answers : Answers)
  | listen (side : Side) (pattern : String)
  | exchange (x : Exchange)

/-- The agent after something has happened. -/
def after (a : Working) : Happening → Working
  | .cycle side driver answers => a.cycle side driver answers
  | .listen side pattern =>
    { a with branch := Function.update a.branch side ((a.branch side).listen pattern) }
  | .exchange x => { a with cursors := x.advance a.cursors }

/-- The agent after some things have happened. -/
def run (a : Working) (happenings : List Happening) : Working := happenings.foldl after a

/-! ## What stays -/

/-- An agent begins to work with orderly sides. -/
theorem orderly_begin (node : Node) (egress endpoints : Answers) (side : Side) :
    ((begin node egress endpoints).branch side).Orderly := by
  cases side with
  | egress => exact Branch.orderly_begin .egress _
  | endpoints => exact Branch.orderly_begin .endpoints _

/-- The sides of an agent stay orderly when one of them is changed to an orderly one. -/
theorem orderly_update {branch : (side : Side) → Branch side} (h : ∀ side, (branch side).Orderly)
    {changed : Side} {b : Branch changed} (hb : b.Orderly) (side : Side) :
    (Function.update branch changed b side).Orderly := by
  by_cases hside : side = changed
  · subst hside
    rwa [Function.update_self]
  · rw [Function.update_of_ne hside]
    exact h side

/-- Whatever happens, the sides stay orderly. -/
theorem orderly_after {a : Working} (h : ∀ side, (a.branch side).Orderly) (happening : Happening)
    (side : Side) : ((a.after happening).branch side).Orderly := by
  cases happening with
  | cycle changed driver answers => exact orderly_update h ((h changed).perform_run _ _) side
  | listen changed pattern =>
    exact orderly_update h ((h changed).perform_run (a.branch changed).source _) side
  | exchange x => exact h side

/-- Whatever happens one after another, the sides stay orderly. -/
theorem orderly_run {a : Working} (h : ∀ side, (a.branch side).Orderly)
    (happenings : List Happening) (side : Side) : ((a.run happenings).branch side).Orderly := by
  induction happenings generalizing a with
  | nil => exact h side
  | cons happening rest ih => exact ih (orderly_after h happening)

/-! ## Failures -/

/-- A cycle fails exactly when one of its exchanges does. -/
theorem session_error_iff (a : Working) (side : Side) (answers : Answers) (e : DiscoveryError) :
    (a.session side answers).result = .error e ↔ ∃ x ∈ a.exchanges side answers, x.Fails e :=
  (side.strict_pull _).error_iff a.node answers a.cursors e

/-- A cycle that fails, in whatever state the agent is, leaves everything as it was but for the
cursors: the sources, the managers with what they have of them and their merged values, the events
that listeners have received, and the caches.  The cursor of a type is that of the last response of
the type that could be decoded in the cycle, or what it was if there was none.  It is the last
exchange of the cycle that has failed, and any number of them have succeeded before. -/
theorem cycle_of_error (node : Node) (egress endpoints : Answers) (happenings : List Happening)
    (side : Side) (driver : Driver) (answers : Answers) (e : DiscoveryError) :
    let a := (begin node egress endpoints).run happenings
    (a.session side answers).result = .error e →
      a.cycle side driver answers = { a with cursors := (a.session side answers).cursors } ∧
      (∀ t, LeavesAt (a.exchanges side answers) t (a.cursors t)
        ((a.session side answers).cursors t)) ∧
      ∃ earlier x, a.exchanges side answers = earlier ++ [x] ∧ x.Fails e ∧
        ∀ y ∈ earlier, y.Succeeds := by
  intro a herror
  refine ⟨?_, fun t => ?_, ?_⟩
  · have horderly : (a.branch side).Orderly :=
      orderly_run (orderly_begin node egress endpoints) happenings side
    unfold cycle
    dsimp only
    rw [herror, Branch.refresh_error horderly, Function.update_eq_self]
  · have hcursors : (a.session side answers).cursors =
        advanceAll a.cursors (a.exchanges side answers) :=
      Dialogue.cursors_answered a.node answers _ a.cursors
    rw [hcursors]
    exact leavesAt_advanceAll a.cursors (a.exchanges side answers) t
  · rcases (side.strict_pull _).answered a.node answers a.cursors with
      ⟨⟨s, hok⟩, -⟩ | ⟨f, earlier, x, hfailed, hsplit, hfails, hearlier⟩
    · cases herror.symm.trans hok
    · cases herror.symm.trans hfailed
      exact ⟨earlier, x, hsplit, hfails, hearlier⟩

/-- A cluster that is a subset of a service, as the control plane sends it. -/
def subsetCluster (subset : String) : PackedResource :=
  Simulation.ControlPlane.pack .cluster ⟨"outbound|80|" ++ subset ++ "|web.shop", .unset⟩

/-- Answers in which there is one cluster, which has no endpoints. -/
def answersOfOne : Answers where
  outcome
    | 0, _ => .answered ⟨"1", "a", "", [subsetCluster "v1"]⟩
    | _, _ => .answered ⟨"5", "d", "", []⟩
  tags _ _ := some ∅

/-- Answers in which there are two clusters, and the request for the endpoints of the second one
comes to nothing. -/
def brokenAnswers : Answers where
  outcome
    | 0, _ => .answered ⟨"2", "b", "", [subsetCluster "v1", subsetCluster "v2"]⟩
    | 1, _ => .answered ⟨"7", "e", "", []⟩
    | _, _ => .closed
  tags _ _ := some ∅

/-- A cycle that gets the clusters and the endpoints of one of them, but not those of another, moves
the cursors of both types and nothing else. -/
theorem cycle_of_error_midway :
    let node : Node := ⟨"pod", "shop", "10.0.0.1"⟩
    let a := (begin node answersOfOne answersOfOne).run [.listen .endpoints "*"]
    (a.session .endpoints brokenAnswers).result = .error (.streamClosed .loadAssignment) ∧
    a.cycle .endpoints .manager brokenAnswers =
      { a with cursors := (a.session .endpoints brokenAnswers).cursors } ∧
    (a.session .endpoints brokenAnswers).cursors .cluster = ⟨"2", "b"⟩ ∧
    (a.session .endpoints brokenAnswers).cursors .loadAssignment = ⟨"7", "e"⟩ := by
  intro node a
  have herror : (a.session .endpoints brokenAnswers).result =
      .error (.streamClosed .loadAssignment) := by decide +kernel
  have hkept := (cycle_of_error node answersOfOne answersOfOne [.listen .endpoints "*"] .endpoints
    .manager brokenAnswers (.streamClosed .loadAssignment) herror).1
  exact ⟨herror, hkept, by decide +kernel, by decide +kernel⟩

end Working

end SidecarAgent.Agent
