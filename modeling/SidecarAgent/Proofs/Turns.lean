import SidecarAgent.Proofs.FailedCycles
import SidecarAgent.Proofs.LedgerReadings

/-!
# Turns of an agent

A cache is told of events one after another, and after each of them the ledger shows its size
(`reading_tellings`).  The sides of an agent at work take turns: a source is added, has a cycle, or
somebody begins to listen.  What is noted in a turn until the manager goes to work are its exchanges
and the changes that its source reports (`Working.proper_turn`).
-/

namespace SidecarAgent.Agent

open Config
open Config.Manager (received)
open Discovery
open Endpoint (Driver)
open Telemetry

/-! ## What caches are told -/

namespace Side

/-- The metric that shows the size of a side's cache. -/
def gauge : Side → Metric
  | egress => .egressRules
  | endpoints => .endpointSubsets

/-- The number of keys in a cache of a side. -/
def size : (side : Side) → side.Cache → ℕ
  | egress => KeyMap.size
  | endpoints => KeyMap.size

/-- A side rejects an event.  There is nothing to reject about endpoints. -/
def rejects : Side → Event → Bool
  | egress => Egress.rejects
  | endpoints => fun _ => false

/-- The families that the cache of a side measures. -/
def families : Side → List MetricFamily
  | egress => [.rejected, .egressRules]
  | endpoints => [.endpointSubsets]

/-- A side does not measure what another one shows. -/
theorem gauge_not_mem_families {side other : Side} (h : other ≠ side) :
    other.gauge.family ∉ side.families := by
  cases side <;> cases other <;> first | exact absurd rfl h | decide

/-- The sources of the sides have different names. -/
theorem name_ne {side other : Side} (h : other ≠ side) : other.source.name ≠ side.source.name := by
  cases side <;> cases other <;> first | exact absurd rfl h | decide

/-- The cache of a side measures its families. -/
theorem measureOnly_onEvent (side : Side) (cache : side.Cache) (e : Event) :
    MeasureOnly side.families (side.onEvent cache e).2 := by
  cases side with
  | egress => exact Egress.Cache.measureOnly_onEvent cache e
  | endpoints => exact Endpoint.Cache.measureOnly_onEvent cache e

/-- An event leaves the size of the cache in the ledger. -/
theorem reading_onEvent {side : Side} {l : Ledger} {cache : side.Cache}
    (h : l.reading side.gauge = side.size cache) (e : Event) :
    (l.enter (side.onEvent cache e).2).reading side.gauge = side.size (side.onEvent cache e).1 := by
  cases side with
  | egress => exact Egress.Cache.reading_onEvent h e
  | endpoints => exact Endpoint.Cache.reading_onEvent h e

/-- An event is one more rejection in the ledger if the side rejects it. -/
theorem reading_rejected_onEvent (side : Side) (l : Ledger) (cache : side.Cache) (e : Event) :
    (l.enter (side.onEvent cache e).2).reading .rejected =
      l.reading .rejected + if side.rejects e then 1 else 0 := by
  cases side with
  | egress => exact Egress.Cache.reading_rejected_onEvent l cache e
  | endpoints =>
    exact l.reading_enter_of_measureOnly (Endpoint.Cache.measureOnly_onEvent cache e) (by decide)

end Side

/-- An event that a cache was told of, the cache after it, and the ledger by then. -/
structure Telling (side : Side) where
  event : Event
  cache : side.Cache
  ledger : Ledger

/-- What a cache is told, and what becomes of it and the ledger. -/
def tellings (side : Side) (l : Ledger) (cache : side.Cache) : List Event → List (Telling side)
  | [] => []
  | e :: rest =>
    let (cache, notes) := side.onEvent cache e
    let l := l.enter notes
    ⟨e, cache, l⟩ :: tellings side l cache rest

section tellings

variable {side : Side}

/-- A cache is told of every event. -/
theorem events_tellings (l : Ledger) (cache : side.Cache) (es : List Event) :
    (tellings side l cache es).map Telling.event = es := by
  induction es generalizing l cache with
  | nil => rfl
  | cons e rest ih => exact congrArg (e :: ·) (ih _ _)

/-- Events that a cache is told of are counted as events. -/
theorem countP_tellings (l : Ledger) (cache : side.Cache) (es : List Event) (p : Event → Bool) :
    ((tellings side l cache es).countP fun t => p t.event) = es.countP p := by
  conv_rhs => rw [← events_tellings l cache es, List.countP_map]
  rfl

/-- After every event that a cache is told of, the ledger shows its size. -/
theorem reading_tellings {l : Ledger} {cache : side.Cache}
    (h : l.reading side.gauge = side.size cache) (es : List Event) :
    ∀ t ∈ tellings side l cache es, t.ledger.reading side.gauge = side.size t.cache := by
  induction es generalizing l cache with
  | nil =>
    intro t ht
    cases ht
  | cons e rest ih =>
    intro t ht
    rcases List.mem_cons.1 ht with rfl | ht
    · exact Side.reading_onEvent h e
    · exact ih (Side.reading_onEvent h e) t ht

/-- Events that are delivered to a cache are entered into the ledger one after another. -/
theorem enter_deliver_cons (l : Ledger) (cache : side.Cache) (e : Event) (rest : List Event) :
    l.enter (deliver side.onEvent cache (e :: rest)).2 =
      (l.enter (side.onEvent cache e).2).enter
        (deliver side.onEvent (side.onEvent cache e).1 rest).2 :=
  l.enter_append _ _

/-- The cache of a side measures its families. -/
theorem measureOnly_deliver (cache : side.Cache) (es : List Event) :
    MeasureOnly side.families (deliver side.onEvent cache es).2 := by
  induction es generalizing cache with
  | nil => exact .nil
  | cons e rest ih => exact (side.measureOnly_onEvent cache e).append (ih _)

/-- Events that are delivered to a cache leave its size in the ledger. -/
theorem reading_gauge_deliver {l : Ledger} {cache : side.Cache}
    (h : l.reading side.gauge = side.size cache) (es : List Event) :
    (l.enter (deliver side.onEvent cache es).2).reading side.gauge =
      side.size (deliver side.onEvent cache es).1 := by
  induction es generalizing l cache with
  | nil => exact h
  | cons e rest ih =>
    rw [enter_deliver_cons]
    exact ih (Side.reading_onEvent h e)

/-- Events that are delivered to a cache are counted as rejections if they are rejected. -/
theorem reading_rejected_deliver (l : Ledger) (cache : side.Cache) (es : List Event) :
    (l.enter (deliver side.onEvent cache es).2).reading .rejected =
      l.reading .rejected + es.countP side.rejects := by
  induction es generalizing l cache with
  | nil => rfl
  | cons e rest ih =>
    rw [enter_deliver_cons, ih, side.reading_rejected_onEvent, List.countP_cons]
    omega

end tellings

/-! ## Turns -/

/-- What a side gets to do: its source is added to its manager, or has a cycle, or somebody begins
to listen to its manager. -/
inductive Occasion where
  | adding (answers : Answers)
  | cycle (driver : Driver) (answers : Answers)
  | listening (pattern : String)

/-- A source is added once, and has its cycles afterwards. -/
def Occasion.fits {side : Side} (b : Branch side) : Occasion → Bool
  | adding _ => b.manager.view.sources.isEmpty
  | cycle _ _ => !b.manager.view.sources.isEmpty
  | listening _ => true

/-- A turn of a side: the exchanges of its source and the cursors after them, the source then and
the changes that it reports, what is noted until its manager goes to work, and what its manager
does. -/
structure Turn (side : Side) where
  exchanges : List Exchange
  cursors : Cursors
  source : PolledSource
  reported : List Event
  opening : List Note
  effect : Manager.Effect Unit ℕ

/-- The events that the cache is told of in a turn. -/
def Turn.told {side : Side} (t : Turn side) : List Event := received 0 t.effect.deliveries

/-- What is noted in a turn of a side that has some cache. -/
def Turn.notes {side : Side} (t : Turn side) (cache : side.Cache) : List Note :=
  t.opening ++ t.effect.notes ++ (deliver side.onEvent cache t.told).2

/-- What is noted about the changes of a source, or about its failure to tell them. -/
def changeNotes (source : PolledSource) : Driver → Except SourceError (List Event) → List Note
  | _, .ok events => source.eventNotes events
  | .loop, .error e => [source.failureNote e]
  | .manager, .error _ => []

namespace Working

/-- What is noted while a side pulls a snapshot. -/
def pullNotes (a : Working) (side : Side) (answers : Answers) : List Note :=
  let source := (a.branch side).source
  source.beginNotes ++ (a.session side answers).notes ++ source.endNotes

/-- What changes by a pull of a side: the difference to what its source had, if it succeeds. -/
def changes (a : Working) (side : Side) (answers : Answers) : List Event :=
  let source := (a.branch side).source
  match (a.session side answers).result with
  | .ok snapshot => diff source.name source.current snapshot
  | .error _ => []

/-- The turn that a side has on some occasion. -/
def turn (a : Working) (side : Side) : Occasion → Turn side
  | .adding answers =>
    let branch := a.branch side
    let session := a.session side answers
    let replaced := branch.source.replace session.result
    let source := replaced.1
    { exchanges := a.exchanges side answers
      cursors := session.cursors
      source := source
      reported := []
      opening := a.pullNotes side answers
      effect := branch.manager.addSource source.name source.priority () replaced.2.toOption }
  | .cycle driver answers =>
    let branch := a.branch side
    let session := a.session side answers
    let refreshed := branch.source.refresh session.result
    { exchanges := a.exchanges side answers
      cursors := session.cursors
      source := refreshed.1
      reported := a.changes side answers
      opening := a.pullNotes side answers ++ changeNotes branch.source driver refreshed.2
      effect := branch.manager.run (driver.operations refreshed.2) }
  | .listening pattern =>
    { exchanges := []
      cursors := a.cursors
      source := (a.branch side).source
      reported := []
      opening := []
      effect := (a.branch side).manager.run [.listen pattern] }

/-- The agent after a turn of one of its sides. -/
def take (a : Working) {side : Side} (t : Turn side) : Working :=
  { a with
    cursors := t.cursors
    branch := Function.update a.branch side
      ({ a.branch side with source := t.source }.perform t.effect) }

end Working

/-- A turn is proper when the source keeps its name, the cursors are moved by the exchanges, and
what is noted until the manager goes to work are the exchanges and the reported changes, and nothing
about caches; the manager measures nothing. -/
structure Turn.Proper {side : Side} (t : Turn side) (cursors : Cursors) : Prop where
  name : t.source.name = side.source.name
  cursors : t.cursors = advanceAll cursors t.exchanges
  requests : ∀ l type succeeded, (Ledger.enter l t.opening).reading (.requests type succeeded) =
    l.reading (.requests type succeeded) +
      t.exchanges.countP fun x => x.request.type = type ∧ x.succeeded = succeeded
  events : ∀ l kind, (Ledger.enter l t.opening).reading (.events side.source.name kind) =
    l.reading (.events side.source.name kind) + t.reported.countP fun e => e.change.kind = kind
  others : ∀ l other kind, other ≠ side →
    (Ledger.enter l t.opening).reading (.events other.source.name kind) =
      l.reading (.events other.source.name kind)
  opening : ∀ l (metric : Metric),
    metric.family ∉ [.refreshTime, .requestTime, .requests, .events] →
    (Ledger.enter l t.opening).reading metric = l.reading metric
  effect : MeasureOnly [] t.effect.notes

namespace Working

/-- Both sides pull silently. -/
theorem silent_pull (side : Side) (previous : Snapshot) : (side.pull previous).Silent := by
  cases side with
  | egress => exact Egress.silent_pull
  | endpoints => exact Endpoint.silent_pull previous

/-- What is noted while a side pulls are its exchanges, and the time it takes. -/
theorem enter_pullNotes (a : Working) (side : Side) (answers : Answers) (l : Ledger) :
    l.enter (a.pullNotes side answers) =
      ((l.enter (a.branch side).source.beginNotes).enter
        ((a.exchanges side answers).flatMap Exchange.notes)).enter
        (a.branch side).source.endNotes := by
  have hexchanges := (silent_pull side (a.branch side).source.current).enter_notes a.node answers
    a.cursors (l.enter (a.branch side).source.beginNotes)
  unfold pullNotes
  rw [Ledger.enter_append, Ledger.enter_append]
  exact congrArg (Ledger.enter · _) hexchanges

/-- What is noted while a side pulls changes neither the events nor anything about caches. -/
theorem reading_pullNotes (a : Working) (side : Side) (answers : Answers) (l : Ledger)
    {metric : Metric} (h : metric.family ∉ [.refreshTime, .requestTime, .requests]) :
    (l.enter (a.pullNotes side answers)).reading metric = l.reading metric := by
  rw [List.mem_cons, not_or, ← List.mem_singleton] at h
  rw [enter_pullNotes,
    Ledger.reading_enter_of_measureOnly _ (PolledSource.measureOnly_endNotes _) h.1,
    Ledger.reading_enter_of_measureOnly _ (Exchange.measureOnly_flatMap_notes _) h.2,
    Ledger.reading_enter_of_measureOnly _ (PolledSource.measureOnly_beginNotes _) h.1]

/-- What is noted while a side pulls counts its exchanges. -/
theorem reading_requests_pullNotes (a : Working) (side : Side) (answers : Answers) (l : Ledger)
    (type : ResourceType) (succeeded : Bool) :
    (l.enter (a.pullNotes side answers)).reading (.requests type succeeded) =
      l.reading (.requests type succeeded) + (a.exchanges side answers).countP
        fun x => x.request.type = type ∧ x.succeeded = succeeded := by
  have htime : (Metric.requests type succeeded).family ∉ [MetricFamily.refreshTime] := by
    simp [Metric.family]
  rw [enter_pullNotes,
    Ledger.reading_enter_of_measureOnly _ (PolledSource.measureOnly_endNotes _) htime,
    Exchange.reading_requests_enter,
    Ledger.reading_enter_of_measureOnly _ (PolledSource.measureOnly_beginNotes _) htime]

/-- The cursors after a pull are moved by its exchanges. -/
theorem cursors_session (a : Working) (side : Side) (answers : Answers) :
    (a.session side answers).cursors = advanceAll a.cursors (a.exchanges side answers) :=
  Dialogue.cursors_answered a.node answers _ a.cursors

end Working

section changeNotes

variable (source : PolledSource) (driver : Driver) (changes : Except SourceError (List Event))

/-- What is noted about a failure measures nothing. -/
theorem measureOnly_changeNotes_error (e : SourceError) :
    MeasureOnly [] (changeNotes source driver (.error e)) := by
  cases driver with
  | loop => exact source.measureOnly_failureNote e
  | manager => exact .nil

/-- What is noted about changes are events. -/
theorem measureOnly_changeNotes : MeasureOnly [.events] (changeNotes source driver changes) := by
  cases changes with
  | ok events => exact source.measureOnly_eventNotes events
  | error e => exact (measureOnly_changeNotes_error source driver e).mono (List.nil_subset _)

/-- What is noted about changes counts them by their kinds. -/
theorem reading_changeNotes (l : Ledger) (kind : ChangeKind) :
    (l.enter (changeNotes source driver changes)).reading (.events source.name kind) =
      l.reading (.events source.name kind) +
        (changes.toOption.getD []).countP fun e => e.change.kind = kind := by
  cases changes with
  | ok events => exact source.reading_eventNotes l events kind
  | error e =>
    exact l.reading_enter_of_measureOnly (measureOnly_changeNotes_error source driver e)
      List.not_mem_nil

/-- What is noted about changes does not count for any other source. -/
theorem reading_changeNotes_of_ne (l : Ledger) {name : String} (h : name ≠ source.name)
    (kind : ChangeKind) :
    (l.enter (changeNotes source driver changes)).reading (.events name kind) =
      l.reading (.events name kind) := by
  cases changes with
  | ok events => exact source.reading_eventNotes_of_ne l events h kind
  | error e =>
    exact l.reading_enter_of_measureOnly (measureOnly_changeNotes_error source driver e)
      List.not_mem_nil

end changeNotes

namespace Working

variable {a : Working} {side : Side}

/-- What a source reports in a cycle are the changes by its pull. -/
theorem toOption_refresh (a : Working) (side : Side) (answers : Answers) :
    ((a.branch side).source.refresh (a.session side answers).result).2.toOption.getD [] =
      a.changes side answers := by
  unfold changes
  cases (a.session side answers).result <;> rfl

/-- The turn in which a source is added is proper. -/
theorem proper_adding (h : (a.branch side).source.name = side.source.name) (answers : Answers) :
    (a.turn side (.adding answers)).Proper a.cursors where
  name := by
    show ((a.branch side).source.replace (a.session side answers).result).1.name = _
    rw [← h]
    cases (a.session side answers).result <;> rfl
  cursors := a.cursors_session side answers
  requests := a.reading_requests_pullNotes side answers
  events l kind := a.reading_pullNotes side answers l (by simp [Metric.family])
  others l other kind _ := a.reading_pullNotes side answers l (by simp [Metric.family])
  opening l metric hmetric := by
    refine a.reading_pullNotes side answers l fun hmem => hmetric ?_
    exact List.mem_append_left [.events] hmem
  effect := Manager.measureOnly_addNotes _ _ _

/-- The turn in which a source has a cycle is proper. -/
theorem proper_cycle (h : (a.branch side).source.name = side.source.name) (driver : Driver)
    (answers : Answers) : (a.turn side (.cycle driver answers)).Proper a.cursors where
  name := by
    show ((a.branch side).source.refresh (a.session side answers).result).1.name = _
    rw [← h]
    cases (a.session side answers).result <;> rfl
  cursors := a.cursors_session side answers
  requests l type succeeded := by
    show (l.enter (a.pullNotes side answers ++ changeNotes _ _ _)).reading _ = _
    rw [Ledger.enter_append, Ledger.reading_enter_of_measureOnly _ (measureOnly_changeNotes _ _ _)
      (by simp [Metric.family])]
    exact a.reading_requests_pullNotes side answers l type succeeded
  events l kind := by
    show (l.enter (a.pullNotes side answers ++ changeNotes _ _ _)).reading _ =
      _ + (a.changes side answers).countP _
    rw [Ledger.enter_append, ← h, reading_changeNotes, toOption_refresh,
      a.reading_pullNotes side answers l (by simp [Metric.family])]
  others l other kind hother := by
    have hname : other.source.name ≠ (a.branch side).source.name := h ▸ Side.name_ne hother
    show (l.enter (a.pullNotes side answers ++ changeNotes _ _ _)).reading _ = _
    rw [Ledger.enter_append, reading_changeNotes_of_ne _ _ _ _ hname,
      a.reading_pullNotes side answers l (by simp [Metric.family])]
  opening l metric hmetric := by
    have hevents : metric.family ∉ [MetricFamily.events] := fun hmem =>
      hmetric (List.mem_append_right [MetricFamily.refreshTime, .requestTime, .requests] hmem)
    have hpull : metric.family ∉ [MetricFamily.refreshTime, .requestTime, .requests] := fun hmem =>
      hmetric (List.mem_append_left [MetricFamily.events] hmem)
    show (l.enter (a.pullNotes side answers ++ changeNotes _ _ _)).reading _ = _
    rw [Ledger.enter_append, Ledger.reading_enter_of_measureOnly _ (measureOnly_changeNotes _ _ _)
      hevents, a.reading_pullNotes side answers l hpull]
  effect := Manager.measureOnly_run _ _

/-- The turn in which somebody begins to listen is proper. -/
theorem proper_listening (h : (a.branch side).source.name = side.source.name) (pattern : String) :
    (a.turn side (.listening pattern)).Proper a.cursors where
  name := h
  cursors := rfl
  requests _ _ _ := rfl
  events _ _ := rfl
  others _ _ _ _ := rfl
  opening _ _ _ := rfl
  effect := Manager.measureOnly_run _ _

/-- Every turn is proper. -/
theorem proper_turn (h : (a.branch side).source.name = side.source.name) (occasion : Occasion) :
    (a.turn side occasion).Proper a.cursors := by
  cases occasion with
  | adding answers => exact proper_adding h answers
  | cycle driver answers => exact proper_cycle h driver answers
  | listening pattern => exact proper_listening h pattern

end Working

end SidecarAgent.Agent
