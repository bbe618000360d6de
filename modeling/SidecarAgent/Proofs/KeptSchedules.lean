import Mathlib.Control.Monad.Basic
import SidecarAgent.Agent.Program
import SidecarAgent.Proofs.BoundedSettings

/-!
# Schedules of an agent that starts

An agent that starts makes a schedule for its endpoint side, and before it one for its egress side
if its egress rules come from the control plane.  A schedule can be kept when its period is
positive, its first tick is at a time that can be told, and its queue is not too large
(`Schedule.Kept`).

Nothing on a command line says so of its values.  A run breaks down exactly when it comes to a
schedule that cannot be kept, and where all can be kept the agent gets ready or refuses to start
(`breaks_down_iff`).
-/

namespace SidecarAgent.Agent

open Discovery (Cursors Node Peer)
open Egress (BackendSource)
open Refresh (ScheduleFault)
open Telemetry (Note)
open Time (Duration)

/-! ## Schedules -/

/-- A schedule that is to be made: by what the clock tells then, with a period, and with room for
some signals. -/
structure Schedule where
  now : Duration
  period : Duration
  capacity : ℕ

namespace Schedule

/-- A schedule can be kept when its period is positive, the time of its first tick is below 2 ^ 63
seconds, and its queue is not larger than an eighth of the greatest number of a word. -/
structure Kept (s : Schedule) : Prop where
  positive : 0 < s.period.toNanos
  told : s.now.toNanos + s.period.toNanos < 9223372036854775808 * 1000000000
  room : s.capacity ≤ (capacityBound - 1) / 8

/-- What keeps a schedule from being made. -/
def fault? (s : Schedule) : Option ScheduleFault :=
  Refresh.scheduleFault? s.now s.period s.capacity

/-- A schedule is made when it can be kept. -/
theorem fault?_eq_none_iff (s : Schedule) : s.fault? = none ↔ s.Kept := by
  have htold : (Refresh.firstTick s.now s.period).seconds < Refresh.secondsBound ↔
      s.now.toNanos + s.period.toNanos < 9223372036854775808 * 1000000000 := by
    show (s.now.toNanos + s.period.toNanos) / 1000000000 < 9223372036854775808 ↔ _
    exact Nat.div_lt_iff_lt_mul (by decide)
  unfold fault?
  rw [Refresh.scheduleFault?_eq_none_iff, htold]
  constructor
  · rintro ⟨told, positive, room⟩
    exact ⟨positive, told, room⟩
  · rintro ⟨positive, told, room⟩
    exact ⟨told, positive, room⟩

end Schedule

/-! ## What an agent comes to -/

variable {settings : Settings} {around : Surroundings}

/-- The schedule of the egress side. -/
def egressSchedule (settings : Settings) (around : Surroundings) : Schedule :=
  ⟨around.egressClock, settings.egressRefreshInterval, settings.triggerCapacity⟩

/-- The schedule of the endpoint side. -/
def endpointSchedule (settings : Settings) (around : Surroundings) : Schedule :=
  ⟨around.endpointClock, settings.endpointRefreshInterval, settings.triggerCapacity⟩

/-- The schedules that an agent makes one after another, by where its egress rules come from: a rule
file is not refreshed. -/
def schedules (settings : Settings) (around : Surroundings) :
    BackendSource Config.PolledSource → List Schedule
  | .ruleFile _ => [endpointSchedule settings around]
  | .controlPlane _ => [egressSchedule settings around, endpointSchedule settings around]

/-- An agent comes to its schedules when it knows who it is, its addresses are addresses, and its
backend can be selected. -/
structure Selects (settings : Settings) (around : Surroundings)
    (backend : BackendSource Config.PolledSource) : Prop where
  identity : ∃ node, Node.ofEnvironment around.environment around.detectedAddress = .ok node
  metrics : ∀ address, settings.metricsAddress = some address → Network.isSocketAddress address
  controlPlane : ∃ uri, Network.Uri.parse? settings.controlPlane = some uri
  selected : Egress.select settings.egressBackend (some derivedSource) (ruleFile? settings around) =
    .ok backend

/-- An agent is ready, and has said so. -/
def Report.IsReady (settings : Settings) (r : Report) : Prop :=
  (∃ agent, r.ending = .ready agent) ∧
    Note.info "sources ready" [("egress_backend", settings.egressBackend)] ∈ r.notes

/-- An agent refuses to start. -/
def Report.IsRefused (r : Report) : Prop := ∃ why, r.ending = .refused why

/-- A report ends over some schedules as it should: the agent is ready if all can be kept, and
breaks down otherwise. -/
def Report.EndsOver (settings : Settings) (r : Report) (schedules : List Schedule) : Prop :=
  (∀ s ∈ schedules, s.Kept) ∧ r.IsReady settings ∨
    (∃ s ∈ schedules, ¬ s.Kept) ∧ ∃ fault, r.ending = .broken fault

/-- What was noted before does not change how a report ends over some schedules. -/
theorem Report.EndsOver.after {r : Report} {schedules : List Schedule}
    (h : r.EndsOver settings schedules) (notes : List Note) :
    (r.after notes).EndsOver settings schedules := by
  rcases h with ⟨hkept, hready, hnote⟩ | hbroken
  · exact .inl ⟨hkept, hready, List.mem_append_right notes hnote⟩
  · exact .inr hbroken

/-- A report that ends over some schedules ends over one more that can be kept. -/
theorem Report.EndsOver.cons {r : Report} {schedules : List Schedule}
    (h : r.EndsOver settings schedules) {s : Schedule} (hs : s.Kept) :
    r.EndsOver settings (s :: schedules) := by
  rcases h with ⟨hkept, hready⟩ | ⟨⟨t, ht, hbroken⟩, hending⟩
  · exact .inl ⟨List.forall_mem_cons.2 ⟨hs, hkept⟩, hready⟩
  · exact .inr ⟨⟨t, List.mem_cons_of_mem s ht, hbroken⟩, hending⟩

/-- A report that breaks down over the first schedule ends so over all of them. -/
theorem Report.endsOver_of_fault {r : Report} {s : Schedule} {fault : ScheduleFault}
    (hs : s.fault? = some fault) (hending : r.ending = .broken fault) (rest : List Schedule) :
    r.EndsOver settings (s :: rest) := by
  refine .inr ⟨⟨s, List.mem_cons_self, fun hkept => ?_⟩, fault, hending⟩
  rw [← s.fault?_eq_none_iff, hs] at hkept
  cases hkept

/-! ## Stage by stage -/

/-- The last stage ends over the schedule of the endpoint side. -/
theorem endsOver_startEndpoints (peer : Peer) (cursors : Cursors)
    (egress : Config.Manager (BackendSource Config.PolledSource) Unit) (cache : Egress.Cache) :
    (startEndpoints settings around peer cursors egress cache).EndsOver settings
      [endpointSchedule settings around] := by
  have hmade : (endpointSchedule settings around).fault? = Refresh.scheduleFault?
      around.endpointClock settings.endpointRefreshInterval settings.triggerCapacity := rfl
  cases hfault : (endpointSchedule settings around).fault? with
  | some fault =>
    refine Report.endsOver_of_fault hfault ?_ []
    unfold startEndpoints
    rw [← hmade, hfault]
  | none =>
    refine .inl ⟨fun s hs => ?_, ?_⟩
    · rw [List.mem_singleton.1 hs, ← Schedule.fault?_eq_none_iff, hfault]
    · unfold startEndpoints
      rw [← hmade, hfault]
      exact ⟨⟨_, rfl⟩, List.mem_append_right _ List.mem_cons_self⟩

/-- The egress side and what comes behind it end over the schedules of the backend that is selected,
and in a refusal where none is. -/
theorem startEgress_cases (settings : Settings) (around : Surroundings) (peer : Peer) :
    (∃ backend,
      Egress.select settings.egressBackend (some derivedSource) (ruleFile? settings around)
        = .ok backend ∧
      (startEgress settings around peer).EndsOver settings (schedules settings around backend)) ∨
    (∃ e, Egress.select settings.egressBackend (some derivedSource) (ruleFile? settings around)
        = .error e) ∧ (startEgress settings around peer).IsRefused := by
  have hmade : (egressSchedule settings around).fault? = Refresh.scheduleFault?
      around.egressClock settings.egressRefreshInterval settings.triggerCapacity := rfl
  unfold startEgress
  cases hselected : Egress.select settings.egressBackend (some derivedSource)
      (ruleFile? settings around) with
  | error e => exact .inr ⟨⟨e, rfl⟩, _, rfl⟩
  | ok backend =>
    refine .inl ⟨backend, rfl, ?_⟩
    cases backend with
    | ruleFile file => exact (endsOver_startEndpoints _ _ _ _).after _
    | controlPlane source =>
      dsimp only
      rw [← hmade]
      cases hfault : (egressSchedule settings around).fault? with
      | some fault => exact Report.endsOver_of_fault hfault rfl _
      | none =>
        have hkept := (Schedule.fault?_eq_none_iff _).1 hfault
        exact ((endsOver_startEndpoints _ _ _ _).cons hkept).after _

/-- An agent that knows who it is ends over the schedules that it comes to, or in a refusal before
any of them. -/
theorem startAs_cases (settings : Settings) {node : Node}
    (hidentity : Node.ofEnvironment around.environment around.detectedAddress = .ok node) :
    (∃ backend, Selects settings around backend ∧
      (startAs settings around node).EndsOver settings (schedules settings around backend)) ∨
    (∀ backend, ¬ Selects settings around backend) ∧ (startAs settings around node).IsRefused := by
  unfold startAs
  by_cases hmetrics : settings.metricsAddress.any fun a => !Network.isSocketAddress a
  · rw [if_pos hmetrics]
    refine .inr ⟨fun backend h => ?_, _, rfl⟩
    obtain ⟨address, haddress, hbad⟩ := (Option.any_eq_true ..).1 hmetrics
    rw [h.metrics address haddress] at hbad
    cases hbad
  · rw [if_neg hmetrics]
    cases hcontrolPlane : Network.Uri.parse? settings.controlPlane with
    | none =>
      refine .inr ⟨fun backend h => ?_, _, rfl⟩
      obtain ⟨uri, huri⟩ := h.controlPlane
      cases hcontrolPlane.symm.trans huri
    | some uri =>
      rcases startEgress_cases settings around
          ⟨node, around.answer uri, (tagLookup settings around).1⟩ with
        ⟨backend, hselected, hends⟩ | ⟨⟨e, herror⟩, why, hwhy⟩
      · refine .inl ⟨backend, ⟨⟨node, hidentity⟩, fun address haddress => ?_, ⟨uri, hcontrolPlane⟩,
          hselected⟩, hends.after _⟩
        cases hsocket : Network.isSocketAddress address with
        | true => rfl
        | false =>
          refine absurd ((Option.any_eq_true ..).2 ⟨address, haddress, ?_⟩) hmetrics
          rw [hsocket]
          rfl
      · refine .inr ⟨fun backend h => ?_, why, hwhy⟩
        cases herror.symm.trans h.selected

/-- A start ends over the schedules that the agent comes to, or in a refusal before any of them. -/
theorem start_cases (settings : Settings) (around : Surroundings) :
    (∃ backend, Selects settings around backend ∧
      (start settings around).EndsOver settings (schedules settings around backend)) ∨
    (∀ backend, ¬ Selects settings around backend) ∧ (start settings around).IsRefused := by
  unfold start
  dsimp only
  cases hidentity : Node.ofEnvironment around.environment around.detectedAddress with
  | error e =>
    refine .inr ⟨fun backend h => ?_, _, rfl⟩
    obtain ⟨node, hnode⟩ := h.identity
    cases hidentity.symm.trans hnode
  | ok node =>
    rcases startAs_cases settings hidentity with
      ⟨backend, hselects, hends⟩ | ⟨hnone, why, hwhy⟩
    · exact .inl ⟨backend, hselects, hends.after _⟩
    · exact .inr ⟨hnone, why, hwhy⟩

/-! ## Runs -/

/-- A run with an accepted command line has the exit code that goes with the end of its start: none
if the agent is ready, that of a refusal, or that of a breakdown. -/
theorem exitCode_run {arguments : List String}
    (h : Settings.parse arguments around.environment = .ok settings) :
    (run arguments around).exitCode =
      match (start settings around).ending with
      | .ready _ => none
      | .refused _ => some refusalCode
      | .broken _ => some breakdownCode := by
  unfold run
  rw [h]
  dsimp only
  unfold Report.run
  dsimp only
  cases (start settings around).ending with
  | ready agent => rfl
  | refused why => rfl
  | broken fault => rfl

/-- A run whose command line is not accepted does not break down. -/
theorem exitCode_run_of_error {arguments : List String} {stop : CommandLineStop}
    (h : Settings.parse arguments around.environment = .error stop) :
    (run arguments around).exitCode ≠ some breakdownCode := by
  unfold run
  rw [h]
  show stop.run.exitCode ≠ some breakdownCode
  cases stop <;> decide

/-- A run breaks down exactly when its command line is accepted and the agent comes to schedules
that cannot all be kept.  An accepted command line holds its values to the numbers of a word and to
nothing else; but where the agent can keep all schedules that it comes to, it gets ready, and says
so, or refuses to start before it comes to them. -/
theorem breaks_down_iff (arguments : List String) (around : Surroundings) :
    ((run arguments around).exitCode = some breakdownCode ↔
      ∃ settings backend, Settings.parse arguments around.environment = .ok settings ∧
        Selects settings around backend ∧ ∃ s ∈ schedules settings around backend, ¬ s.Kept) ∧
    ∀ settings, Settings.parse arguments around.environment = .ok settings →
      settings.Bounded ∧
      ((∀ backend, Selects settings around backend →
        ∀ s ∈ schedules settings around backend, s.Kept) →
        (start settings around).IsReady settings ∧ (run arguments around).exitCode = none ∨
        (start settings around).IsRefused ∧
          (run arguments around).exitCode = some refusalCode) := by
  refine ⟨⟨fun hbroken => ?_, ?_⟩,
    fun settings hparse => ⟨bounded_of_parse hparse, fun hkept => ?_⟩⟩
  · cases hparse : Settings.parse arguments around.environment with
    | error stop => exact absurd hbroken (exitCode_run_of_error hparse)
    | ok settings =>
      rw [exitCode_run hparse] at hbroken
      rcases start_cases settings around with
        ⟨backend, hselects, ⟨-, ⟨agent, hready⟩, -⟩ | ⟨hnot, -⟩⟩ | ⟨-, why, hrefused⟩
      · rw [hready] at hbroken
        cases hbroken
      · exact ⟨settings, backend, rfl, hselects, hnot⟩
      · rw [hrefused] at hbroken
        cases hbroken
  · rintro ⟨settings, backend, hparse, hselects, s, hs, hnot⟩
    rw [exitCode_run hparse]
    rcases start_cases settings around with
      ⟨other, hother, ⟨hall, -⟩ | ⟨-, fault, hfault⟩⟩ | ⟨hnone, -⟩
    · cases hselects.selected.symm.trans hother.selected
      exact absurd (hall s hs) hnot
    · rw [hfault]
    · exact absurd hselects (hnone backend)
  · rw [exitCode_run hparse]
    rcases start_cases settings around with
      ⟨backend, hselects, ⟨-, hready⟩ | ⟨⟨s, hs, hnot⟩, -⟩⟩ | ⟨-, hrefused⟩
    · obtain ⟨agent, hagent⟩ := hready.1
      exact .inl ⟨hready, by rw [hagent]⟩
    · exact absurd (hkept backend hselects s hs) hnot
    · obtain ⟨why, hwhy⟩ := hrefused
      exact .inr ⟨⟨why, hwhy⟩, by rw [hwhy]⟩

/-- Surroundings in which an agent knows its address, and finds nothing else. -/
def bareSurroundings : Surroundings where
  environment name := if name = "INSTANCE_IP" then some "10.1.2.3" else none
  file _ := none

/-- The shortest period there is, and no room for signals asked for, is enough to get ready. -/
theorem ready_with_shortest_period :
    let arguments := ["--egress-refresh-interval", "1ns", "--trigger-capacity=0"]
    let settings : Settings := { egressRefreshInterval := .ofNanos 1, triggerCapacity := 0 }
    Settings.parse arguments bareSurroundings.environment = .ok settings ∧
      (∀ backend, Selects settings bareSurroundings backend →
        ∀ s ∈ schedules settings bareSurroundings backend, s.Kept) ∧
      (start settings bareSurroundings).IsReady settings := by
  intro arguments settings
  have hparse : Settings.parse arguments bareSurroundings.environment = .ok settings := by
    decide +kernel
  have hcode : (run arguments bareSurroundings).exitCode = none := by decide +kernel
  have hkept : ∀ backend, Selects settings bareSurroundings backend →
      ∀ s ∈ schedules settings bareSurroundings backend, s.Kept := by
    intro backend _ s hs
    rw [← Schedule.fault?_eq_none_iff]
    cases backend with
    | ruleFile file =>
      rw [List.mem_singleton.1 hs]
      decide +kernel
    | controlPlane source =>
      rcases List.mem_cons.1 hs with rfl | hs
      · decide +kernel
      · rw [List.mem_singleton.1 hs]
        decide +kernel
  refine ⟨hparse, hkept, ?_⟩
  rcases ((breaks_down_iff arguments bareSurroundings).2 settings hparse).2 hkept with
    ⟨hready, -⟩ | ⟨-, hrefused⟩
  · exact hready
  · rw [hcode] at hrefused
    cases hrefused

/-- A period of zero, a period beyond all times that can be told, and a queue that is too large are
accepted on a command line, and each of them breaks the run down. -/
theorem broken_though_accepted :
    (Settings.parse ["--egress-refresh-interval", "0s"] bareSurroundings.environment).isOk ∧
      (run ["--egress-refresh-interval", "0s"] bareSurroundings).exitCode = some breakdownCode ∧
    (Settings.parse ["--endpoint-refresh-interval", "18446744073709551615s"]
      bareSurroundings.environment).isOk ∧
      (run ["--endpoint-refresh-interval", "18446744073709551615s"] bareSurroundings).exitCode =
        some breakdownCode ∧
    (Settings.parse ["--trigger-capacity", "2305843009213693952"]
      bareSurroundings.environment).isOk ∧
      (run ["--trigger-capacity", "2305843009213693952"] bareSurroundings).exitCode =
        some breakdownCode := by
  decide +kernel

end SidecarAgent.Agent
