import SidecarAgent.Proofs.SoundSides
import SidecarAgent.Proofs.Turns

/-!
# The books of an agent

An agent at work notes what it does, and the notes of both its sides go into one ledger.  `Books`
hold, beside the agent and its notes, what there is to count: the exchanges with the control plane,
the changes that sources report, and the events that caches are told of.  Books that begin empty
stay balanced, whatever is done (`Balanced.run`), so that the readings of the ledger are the counts
(`ledger_counts_run`).  Every run of an agent at work is one that books are kept of
(`agent_run_begin`).
-/

namespace SidecarAgent.Agent

open Config
open Config.Manager (received)
open Discovery
open Endpoint (Driver)
open Telemetry

/-! ## Books -/

/-- An agent, what it has noted, and what there is to count: its exchanges with the control plane,
the changes that its sources have reported, and what its caches were told of. -/
structure Books where
  agent : Working
  notes : List Note := []
  exchanges : List Exchange := []
  reported : Side → List Event := fun _ => []
  told : (side : Side) → List (Telling side) := fun _ => []

/-- What is done: a side has a turn, or an exchange with the control plane comes to an end that is
not part of any turn. -/
inductive Deed where
  | turn (side : Side) (occasion : Occasion)
  | exchange (x : Exchange)

/-- The deed that something that happens to an agent at work comes down to. -/
def Deed.ofHappening : Working.Happening → Deed
  | .cycle side driver answers => .turn side (.cycle driver answers)
  | .listen side pattern => .turn side (.listening pattern)
  | .exchange x => .exchange x

namespace Books

/-- The ledger with everything that was noted. -/
def ledger (b : Books) : Ledger := ({} : Ledger).enter b.notes

/-- The books of an agent that has done nothing. -/
def start (node : Node) : Books := { agent := ⟨node, Cursors.start, Branch.empty⟩ }

/-- The books after a turn. -/
def turn (b : Books) {side : Side} (t : Turn side) : Books :=
  let cache := (b.agent.branch side).cache
  let before := b.ledger.enter (t.opening ++ t.effect.notes)
  { agent := b.agent.take t
    notes := b.notes ++ t.notes cache
    exchanges := b.exchanges ++ t.exchanges
    reported := Function.update b.reported side (b.reported side ++ t.reported)
    told := Function.update b.told side (b.told side ++ tellings side before cache t.told) }

/-- The books after an exchange that is not part of any turn. -/
def exchange (b : Books) (x : Exchange) : Books :=
  { b with
    agent := { b.agent with cursors := x.advance b.agent.cursors }
    notes := b.notes ++ x.notes
    exchanges := b.exchanges ++ [x] }

/-- The books after a deed.  Nothing is done on an occasion that does not fit. -/
def proceed (b : Books) : Deed → Books
  | .turn side occasion =>
    if occasion.fits (b.agent.branch side) then b.turn (b.agent.turn side occasion) else b
  | .exchange x => b.exchange x

/-- A turn is taken on an occasion that fits. -/
theorem proceed_of_fits {b : Books} {side : Side} {occasion : Occasion}
    (h : occasion.fits (b.agent.branch side) = true) :
    b.proceed (.turn side occasion) = b.turn (b.agent.turn side occasion) := if_pos h

/-- The books after some deeds. -/
def run (b : Books) (deeds : List Deed) : Books := deeds.foldl proceed b

/-- Books are balanced when the ledger shows what there is to count: the exchanges of every type by
their results, the changes reported by every source by their kinds, the events that were rejected,
and the sizes of the caches, which it has shown after every event as well. -/
structure Balanced (b : Books) : Prop where
  names : ∀ side, (b.agent.branch side).source.name = side.source.name
  cursors : b.agent.cursors = advanceAll Cursors.start b.exchanges
  told : ∀ side, (b.told side).map Telling.event = received 0 (b.agent.branch side).delivered
  requests : ∀ type succeeded, b.ledger.reading (.requests type succeeded) =
    b.exchanges.countP fun x => x.request.type = type ∧ x.succeeded = succeeded
  events : ∀ side kind, b.ledger.reading (.events side.source.name kind) =
    (b.reported side).countP fun e => e.change.kind = kind
  rejected : b.ledger.reading .rejected = (b.told .egress).countP fun t => Egress.rejects t.event
  gauges : ∀ side : Side, b.ledger.reading side.gauge = side.size (b.agent.branch side).cache
  shown : ∀ side, ∀ t ∈ b.told side, t.ledger.reading side.gauge = side.size t.cache

variable {b : Books} {side : Side}

/-- Empty books are balanced. -/
theorem balanced_start (node : Node) : (start node).Balanced where
  names _ := rfl
  cursors := rfl
  told _ := rfl
  requests _ _ := rfl
  events _ _ := rfl
  rejected := rfl
  gauges side := by cases side <;> rfl
  shown side t ht := by cases ht

/-- What a turn enters into the ledger. -/
theorem ledger_turn (b : Books) (t : Turn side) :
    (b.turn t).ledger = ((b.ledger.enter t.opening).enter t.effect.notes).enter
      (deliver side.onEvent (b.agent.branch side).cache t.told).2 := by
  show ({} : Ledger).enter (b.notes ++ (t.opening ++ t.effect.notes ++ _)) = _
  rw [Ledger.enter_append, Ledger.enter_append, Ledger.enter_append]
  rfl

/-- Until the cache is told of something, a proper turn leaves what is shown about caches. -/
theorem reading_before {t : Turn side} {cursors : Cursors} (ht : t.Proper cursors) (b : Books)
    {metric : Metric}
    (h : metric.family ∉ [.refreshTime, .requestTime, .requests, .events]) :
    ((b.ledger.enter t.opening).enter t.effect.notes).reading metric = b.ledger.reading metric := by
  rw [Ledger.reading_enter_of_measureOnly _ ht.effect List.not_mem_nil, ht.opening _ _ h]

/-- What the cache of a side does not measure is shown after a proper turn as before the manager
went to work. -/
theorem reading_turn {t : Turn side} {cursors : Cursors} (ht : t.Proper cursors) (b : Books)
    {metric : Metric} (h : metric.family ∉ side.families) :
    (b.turn t).ledger.reading metric = (b.ledger.enter t.opening).reading metric := by
  rw [ledger_turn, Ledger.reading_enter_of_measureOnly _ (measureOnly_deliver _ _) h,
    Ledger.reading_enter_of_measureOnly _ ht.effect List.not_mem_nil]

/-- Until the cache is told of something, the sizes that balanced books show are those of the
caches. -/
theorem Balanced.gauge_before (h : b.Balanced) {t : Turn side} {cursors : Cursors}
    (ht : t.Proper cursors) (other : Side) :
    ((b.ledger.enter t.opening).enter t.effect.notes).reading other.gauge =
      other.size (b.agent.branch other).cache :=
  (reading_before ht b (by cases other <;> decide)).trans (h.gauges other)

/-- A proper turn keeps books balanced. -/
theorem Balanced.turn (h : b.Balanced) {t : Turn side} (ht : t.Proper b.agent.cursors) :
    (b.turn t).Balanced where
  names := by
    refine (Function.forall_update_iff b.agent.branch
      (p := fun side branch => branch.source.name = side.source.name)).2 ⟨ht.name, ?_⟩
    exact fun other _ => h.names other
  cursors := by
    show t.cursors = advanceAll Cursors.start (b.exchanges ++ t.exchanges)
    rw [ht.cursors, h.cursors, advanceAll_append]
  told other := by
    show (Function.update b.told side _ other).map Telling.event =
      received 0 (Function.update b.agent.branch side _ other).delivered
    by_cases hother : other = side
    · subst hother
      rw [Function.update_self, Function.update_self, List.map_append, h.told, events_tellings]
      exact (Manager.received_append 0 _ _).symm
    · rw [Function.update_of_ne hother, Function.update_of_ne hother]
      exact h.told other
  requests type succeeded := by
    have hfamily : (Metric.requests type succeeded).family ∉ side.families := by
      cases side <;> simp [Side.families, Metric.family]
    rw [reading_turn ht b hfamily, ht.requests, h.requests]
    exact List.countP_append.symm
  events other kind := by
    have hfamily : (Metric.events other.source.name kind).family ∉ side.families := by
      cases side <;> simp [Side.families, Metric.family]
    rw [reading_turn ht b hfamily]
    show _ = (Function.update b.reported side _ other).countP _
    by_cases hother : other = side
    · subst hother
      rw [Function.update_self, ht.events, h.events, List.countP_append]
    · rw [Function.update_of_ne hother, ht.others _ _ _ hother, h.events]
  rejected := by
    have hbefore : ((b.ledger.enter t.opening).enter t.effect.notes).reading .rejected =
        b.ledger.reading .rejected := reading_before ht b (by decide)
    rw [ledger_turn, reading_rejected_deliver, hbefore, h.rejected]
    show _ = (Function.update b.told side _ .egress).countP _
    -- an endpoint cache rejects nothing, and its turns tell the egress cache nothing
    cases side with
    | egress =>
      rw [Function.update_self, List.countP_append, countP_tellings]
      rfl
    | endpoints =>
      have hnothing : t.told.countP Side.endpoints.rejects = 0 :=
        congrFun List.countP_false t.told
      rw [Function.update_of_ne (by decide), hnothing]
      rfl
  gauges other := by
    show _ = other.size (Function.update b.agent.branch side _ other).cache
    rw [ledger_turn]
    -- the cache that is told of events shows its own size and leaves what the other one shows
    by_cases hother : other = side
    · subst hother
      rw [Function.update_self]
      exact reading_gauge_deliver (h.gauge_before ht other) t.told
    · rw [Function.update_of_ne hother, Ledger.reading_enter_of_measureOnly _
        (measureOnly_deliver _ _) (Side.gauge_not_mem_families hother)]
      exact h.gauge_before ht other
  shown other := by
    show ∀ s ∈ Function.update b.told side _ other, _
    by_cases hother : other = side
    · subst hother
      rw [Function.update_self]
      intro s hs
      rcases List.mem_append.1 hs with hs | hs
      · exact h.shown other s hs
      · refine reading_tellings ?_ t.told s hs
        rw [Ledger.enter_append]
        exact h.gauge_before ht other
    · rw [Function.update_of_ne hother]
      exact h.shown other

/-- An exchange that is not part of any turn keeps books balanced. -/
theorem Balanced.exchange (h : b.Balanced) (x : Exchange) : (b.exchange x).Balanced := by
  have hledger : (b.exchange x).ledger = b.ledger.enter x.notes := Ledger.enter_append _ _ _
  have hothers : ∀ metric : Metric, metric.family ∉ [MetricFamily.requestTime, .requests] →
      (b.exchange x).ledger.reading metric = b.ledger.reading metric := fun metric hmetric => by
    rw [hledger, Ledger.reading_enter_of_measureOnly _ x.measureOnly_notes hmetric]
  refine ⟨h.names, ?_, h.told, fun type succeeded => ?_, fun side kind => ?_, ?_, fun side => ?_,
    h.shown⟩
  · show x.advance b.agent.cursors = advanceAll Cursors.start (b.exchanges ++ [x])
    rw [h.cursors, advanceAll_append]
    rfl
  · show _ = (b.exchanges ++ [x]).countP _
    rw [hledger, x.reading_requests_enter_notes, h.requests, List.countP_append,
      List.countP_singleton]
    simp only [decide_eq_true_eq]
  · exact (hothers _ (by simp [Metric.family])).trans (h.events side kind)
  · exact (hothers _ (by decide)).trans h.rejected
  · exact (hothers _ (by cases side <;> decide)).trans (h.gauges side)

/-- Whatever is done, books stay balanced. -/
theorem Balanced.proceed (h : b.Balanced) (deed : Deed) : (b.proceed deed).Balanced := by
  cases deed with
  | turn side occasion =>
    show (if occasion.fits (b.agent.branch side) then _ else b).Balanced
    split
    · exact h.turn (Working.proper_turn (h.names side) occasion)
    · exact h
  | exchange x => exact h.exchange x

/-- Whatever is done one after another, books stay balanced. -/
theorem Balanced.run (h : b.Balanced) (deeds : List Deed) : (b.run deeds).Balanced := by
  induction deeds generalizing b with
  | nil => exact h
  | cons deed rest ih => exact ih (h.proceed deed)

/-! ## Agents at work -/

/-- An agent begins to work when the sources of both sides are added. -/
theorem agent_begin (node : Node) (egress endpoints : Answers) :
    ((start node).run
      [.turn .egress (.adding egress), .turn .endpoints (.adding endpoints)]).agent =
      Working.begin node egress endpoints := by
  have hbranch : ∀ side,
      ((start node).run [.turn .egress (.adding egress),
        .turn .endpoints (.adding endpoints)]).agent.branch side =
      (Working.begin node egress endpoints).branch side := by
    intro side
    cases side <;> rfl
  exact congrArg (Working.mk node _) (funext hbranch)

/-- What happens to an agent at work is done. -/
theorem agent_proceed (h : ∀ side, (b.agent.branch side).Sound) (happening : Working.Happening) :
    (b.proceed (.ofHappening happening)).agent = b.agent.after happening := by
  cases happening with
  | cycle side driver answers =>
    have hfits : (Occasion.cycle driver answers).fits (b.agent.branch side) = true := by
      have hsources : (b.agent.branch side).manager.view.sources = [_] := (h side).hasOnly
      unfold Occasion.fits
      rw [hsources]
      rfl
    show (b.proceed (.turn side (.cycle driver answers))).agent = _
    rw [proceed_of_fits hfits]
    rfl
  | listen side pattern => rfl
  | exchange x => rfl

/-- Whatever happens to an agent at work is done, one after another. -/
theorem agent_run (h : ∀ side, (b.agent.branch side).Sound) (happenings : List Working.Happening) :
    (b.run (happenings.map .ofHappening)).agent = b.agent.run happenings := by
  induction happenings generalizing b with
  | nil => rfl
  | cons happening rest ih =>
    have hnext := agent_proceed h happening
    have hsound : ∀ side, ((b.proceed (.ofHappening happening)).agent.branch side).Sound := by
      rw [hnext]
      exact Working.sound_after h happening
    show ((b.proceed (.ofHappening happening)).run (rest.map .ofHappening)).agent = _
    rw [ih hsound, hnext]
    rfl

/-- Every run of an agent at work is one that books are kept of. -/
theorem agent_run_begin (node : Node) (egress endpoints : Answers)
    (happenings : List Working.Happening) :
    ((start node).run (.turn .egress (.adding egress) :: .turn .endpoints (.adding endpoints) ::
      happenings.map .ofHappening)).agent =
      (Working.begin node egress endpoints).run happenings := by
  have hbegin := agent_begin node egress endpoints
  have hsound : ∀ side, (((start node).run [.turn .egress (.adding egress),
      .turn .endpoints (.adding endpoints)]).agent.branch side).Sound := by
    rw [hbegin]
    exact Working.sound_begin node egress endpoints
  exact (agent_run hsound happenings).trans (congrArg (Working.run · happenings) hbegin)

/-! ## What is counted -/

end Books

/-! ## The start -/

/-- A manager that an agent starts with does for its first source what the manager of a side does.
-/
theorem addFirst_eq_deliver {ι : Type} (side : Side) (name : String) (priority : ℤ) (source : ι)
    (pulled : Option Snapshot) :
    let effect := (Branch.empty side).manager.addSource name priority () pulled
    let delivered := deliver side.onEvent side.emptyCache (received 0 effect.deliveries)
    (addFirst side.onEvent side.emptyCache name priority source pulled).2 =
      (delivered.1, effect.notes ++ delivered.2) := by
  intro effect delivered
  have hresolved : (Branch.empty side).manager.view.Resolved := Manager.orderly_empty.resolved
  have hside : effect.deliveries =
      (Branch.empty side).manager.dispatch (Manager.creations name (pulled.getD ∅)) :=
    Manager.deliveries_addSource_first rfl hresolved name priority () pulled
  have hlistening : ((listening (ι := ι)).addSource name priority source pulled).deliveries =
      listening.dispatch (Manager.creations name (pulled.getD ∅)) :=
    Manager.deliveries_addSource_first rfl (fun _ => rfl) name priority source pulled
  have htold : received 0 effect.deliveries =
      ((listening (ι := ι)).addSource name priority source pulled).deliveries.map Prod.snd := by
    have hnumbered : (Branch.empty side).manager.Numbered := rfl
    rw [hside, hlistening, map_snd_dispatch_listening]
    exact Manager.received_dispatch_star hnumbered List.mem_cons_self _
  show ((deliver side.onEvent side.emptyCache _).1,
    _ ++ (deliver side.onEvent side.emptyCache _).2) = _
  rw [← htold]
  rfl

/-- An agent that starts notes about its first source of a side what is noted in the turn in which
the source is added. -/
theorem notes_adding {ι : Type} (side : Side) (peer : Peer)
    (source : PolledSource → ι) {a : Working}
    (hnode : a.node = peer.node) (hbranch : a.branch side = Branch.empty side) :
    let s := pullFirst peer a.cursors side.source (side.pull ∅)
    let added := addFirst side.onEvent side.emptyCache s.result.1.name s.result.1.priority
      (source s.result.1) s.result.2.toOption
    (a.turn side (.adding peer.answers)).notes side.emptyCache = s.notes ++ added.2.2 := by
  intro s added
  have hadded : added.2 = _ := addFirst_eq_deliver side _ _ _ _
  have hcurrent : side.source.current = ∅ := by cases side <;> rfl
  have hsource : (Branch.empty side).source = side.source := rfl
  rw [hadded]
  unfold Turn.notes Turn.told Working.turn Working.pullNotes Working.session
  rw [hbranch, hnode, hsource, hcurrent]
  exact List.append_assoc _ _ _

namespace Books

variable {settings : Settings} {around : Surroundings}

/-- An agent that starts with the control plane notes what adding both sources notes, and then that
it is ready. -/
theorem notes_startEgress (peer : Peer)
    (hselected :
      Egress.select settings.egressBackend (some derivedSource) (ruleFile? settings around) =
        .ok (.controlPlane derivedSource))
    (hegress : Refresh.scheduleFault? around.egressClock settings.egressRefreshInterval
      settings.triggerCapacity = none)
    (hendpoints : Refresh.scheduleFault? around.endpointClock settings.endpointRefreshInterval
      settings.triggerCapacity = none) :
    (startEgress settings around peer).notes =
      ((start peer.node).run [.turn .egress (.adding peer.answers),
        .turn .endpoints (.adding peer.answers)]).notes ++
      [Note.info "sources ready" [("egress_backend", settings.egressBackend)]] := by
  have hfirst := notes_adding .egress peer Egress.BackendSource.controlPlane
    (a := (start peer.node).agent) rfl rfl
  have hsecond := notes_adding .endpoints peer id
    (a := ((start peer.node).run [.turn .egress (.adding peer.answers)]).agent) rfl rfl
  have hbooks : ((start peer.node).run [.turn .egress (.adding peer.answers),
      .turn .endpoints (.adding peer.answers)]).notes =
      ((start peer.node).agent.turn .egress (.adding peer.answers)).notes Side.egress.emptyCache ++
        (((start peer.node).run [.turn .egress (.adding peer.answers)]).agent.turn .endpoints
          (.adding peer.answers)).notes Side.endpoints.emptyCache := rfl
  rw [hbooks, hfirst, hsecond]
  unfold startEgress startEndpoints
  rw [hselected]
  dsimp only
  rw [hegress, hendpoints]
  exact (List.append_assoc _ _ _).symm

end Books

end SidecarAgent.Agent
