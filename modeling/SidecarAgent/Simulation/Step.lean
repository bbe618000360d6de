import SidecarAgent.Simulation.Pulling

/-!
# Steps of a rehearsal

A rehearsal is a list of steps, each of which has a reply.  Steps set up the world, ask the client,
work with sources, managers, caches, data planes and schedulers, or look at what has happened.
-/

namespace SidecarAgent.Simulation

open Config (Event Snapshot SourceError Value)
open Discovery
open Refresh (Wakeup)
open Telemetry (LogEntry Note)

/-! ## Steps and replies -/

/-- What a source is made of. -/
inductive SourceSpec where
  | fixed (name : String) (priority : Int) (entries : Snapshot) (failing : Bool)
  | ruleText (text : String)
  | backend (name : String) (file : Option Egress.FileContent) (period capacity : Nat)
  | polled (name : String) (priority : Int) (pull : Pull) (period capacity : Nat)

/-- Changes to what a rehearsal's surroundings do. -/
inductive Setting where
  | clusters (clusters : List Cluster)
  | assignment (assignment : LoadAssignment)
  | noAssignment (cluster : String)
  | routes (routes : List RouteConfiguration)
  | listeners (listeners : List Discovery.Listener)
  | script (answers : List (Option Outcome))
  | failing (type : ResourceType) (on : Bool)
  | stalled (on : Bool)
  | delay (millis : Nat)
  | tags (query : SubsetQuery) (tags : Tags)
  | failingTags (on : Bool)
  | rules (reply : Kubernetes.ListReply)
  | entries (source : String) (entries : Snapshot)
  | failingSource (source : String) (on : Bool)

/-- A question to the client. -/
inductive Question where
  | clusters
  | endpoints (cluster : String)
  | routes (name : String)
  | listeners
  | virtualHosts (cluster : String)
  | routeClusters (cluster : String)
  | tags (query : SubsetQuery)

/-- A step. -/
inductive Step where
  | set (setting : Setting)
  | requests
  | clusterCalls
  | advance (millis : Nat)
  | now
  | metrics
  | logs
  | ask (question : Question)
  | cursors
  | concurrent (cluster : String)
  | newSource (id : String) (spec : SourceSpec)
  | pullSource (id : String)
  | lookKeyUp (id key : String)
  | syncSource (id : String)
  | refreshSource (id : String)
  | triggerSource (id key : String)
  | listen (manager pattern : String) (listener : Listener)
  | events (recorder : String)
  | addSource (manager id : String)
  | apply (manager : String) (event : Event)
  | refresh (manager : String)
  | run (manager : String)
  | get (manager key : String)
  | configurations (manager : String)
  | notify (listener : Listener) (event : Event)
  | publishRules (cache key : String) (rules : List Egress.Rule)
  | withdrawRules (cache key : String)
  | rulesOf (cache key : String)
  | rulesSize (cache : String)
  | allRules (cache : String)
  | matchHost (cache host : String)
  | setSubset (cache key : String) (subset : Endpoint.Subset)
  | deleteSubset (cache key : String)
  | subsetOf (cache key : String)
  | subsetsSize (cache : String)
  | instances (cache service : String) (tags : Tags)
  | plane (name caches : String) (egressTrigger endpointTrigger : Option String)
  | planeMatch (name host : String)
  | planeInstances (name service : String) (tags : Tags)
  | newScheduler (id : String) (period capacity : Nat)
  | send (id key : String)
  | sendLater (id : String) (millis : Nat) (key : String)
  | wait (id : String)
  | dropScheduler (id : String)
  | dropTrigger (id : String)

/-- Why a step failed. -/
inductive Failure where
  | validation (e : Egress.ValidationError)
  | discovery (e : DiscoveryError)
  | source (e : SourceError)
  | backend (e : Egress.BackendError)

/-- What a step comes to. -/
inductive Reply where
  | done
  | failed (why : Failure)
  | flag (b : Bool)
  | flag? (b : Option Bool)
  | count (n : Nat)
  | size (n : Nat)
  | requests (requests : List Request)
  | paths (paths : List String)
  | metrics (ledger : Telemetry.Ledger)
  | logs (entries : List LogEntry)
  | clusters (clusters : List Cluster)
  | assignment (assignment : LoadAssignment)
  | routes (routes : RouteConfiguration)
  | virtualHosts (hosts : List VirtualHost)
  | names (names : List String)
  | tags (tags : Tags)
  | cursors (cursors : Cursors)
  | both (first second : Reply)
  | madeSource (name : String) (priority : Int) (hasTrigger : Bool)
  | snapshot (snapshot : Snapshot)
  | value (value : Value)
  | entry (value : Option Value) (owner : Option String)
  | events (events : List Event)
  | synced (tracked : Bool) (events : List Event)
  | rules (rules : List Egress.Rule)
  | rules? (rules : Option (List Egress.Rule))
  | rule? (rule : Option Egress.Rule)
  | subset? (subset : Option Endpoint.Subset)
  | instances (instances : List Endpoint.Instance)
  | instances? (instances : Option (List Endpoint.Instance))
  | wakeup (wakeup : Wakeup) (time : Nat)

/-- A reply that may be a failure. -/
def Reply.ofExcept {ε α : Type} (failure : ε → Failure) (reply : α → Reply) : Except ε α → Reply
  | .ok a => reply a
  | .error e => .failed (failure e)

/-! ## Surroundings -/

/-- Changes what surrounds the agent. -/
def Setting.apply (s : Setting) (w : World) : World :=
  let plane (f : ControlPlane → ControlPlane) : World :=
    { w with controlPlane := f w.controlPlane }
  let source (id : String) (f : Source → Source) : World :=
    match w.sourceNumber? id with
    | some n => w.modifySource n f
    | none => w
  match s with
  | .clusters cs => plane fun cp => { cp with clusters := cs }
  | .assignment a => plane fun cp => cp.setAssignment a
  | .noAssignment cluster => plane fun cp => cp.removeAssignment cluster
  | .routes rs => plane fun cp => { cp with routes := rs }
  | .listeners ls => plane fun cp => { cp with listeners := ls }
  | .script answers => plane fun cp => { cp with script := cp.script ++ answers }
  | .failing t on => plane fun cp => cp.setFailing t on
  | .stalled on => plane fun cp => { cp with stalled := on }
  | .delay millis => plane fun cp => { cp with delay := millis }
  | .tags query ts => { w with tagTable := (query, ts) :: w.tagTable }
  | .failingTags on => { w with tagsFailing := on }
  | .rules reply => { w with cluster := reply }
  | .entries id snapshot =>
    source id fun
      | .fixed name priority _ fails => .fixed name priority snapshot fails
      | other => other
  | .failingSource id on =>
    source id fun
      | .fixed name priority snapshot _ => .fixed name priority snapshot on
      | other => other

/-! ## Sources -/

/-- Adds a polled source with a scheduler of its own. -/
def World.addPolled (w : World) (id name : String) (priority : Int) (pull : Pull)
    (now period capacity : Nat) : World :=
  let (w, pacer) := w.addPacer (Refresh.Scheduler.make now period capacity)
  w.addSource id (.polled { name := name, priority := priority } pull pacer {} false)

/-- Makes a source. -/
def World.makeSource (w : World) (now : Nat) (id : String) :
    SourceSpec → Except Failure World
  | .fixed name priority entries failing =>
    .ok (w.addSource id (.fixed name priority entries failing))
  | .ruleText text =>
    match Egress.RuleFile.parse "egress.yaml" text with
    | .ok file => .ok (w.addSource id (.ruleFile file))
    | .error e => .error (.source e)
  | .polled name priority pull period capacity =>
    .ok (w.addPolled id name priority pull now period capacity)
  | .backend name file period capacity =>
    match Egress.select name (some ()) file with
    | .ok (.ruleFile file) => .ok (w.addSource id (.ruleFile file))
    | .ok (.controlPlane _) =>
      .ok (w.addPolled id Egress.derivedSourceName Egress.derivedSourcePriority .egressRules now
        period capacity)
    | .error e => .error (.backend e)

namespace Act

/-! ## Questions -/

/-- Carries a dialogue out, and puts its result into a reply. -/
def answer {α : Type} (reply : α → Reply) (d : Dialogue (Except DiscoveryError α)) : Act Reply := do
  return .ofExcept .discovery reply (← carryOut d)

/-- Asks the client. -/
def question : Question → Act Reply
  | .clusters => answer .clusters Dialogue.listClusters
  | .endpoints cluster => answer .assignment (Dialogue.listEndpoints cluster)
  | .routes name => answer .routes (Dialogue.listRoutes name)
  | .listeners => answer (fun ls => .names (ls.map (·.name))) Dialogue.listListeners
  | .virtualHosts cluster => answer .virtualHosts (Dialogue.virtualHosts cluster)
  | .routeClusters cluster => answer .names (Dialogue.routeClusters cluster)
  | .tags query => answer .tags (Dialogue.tagsForSubset query)

/-! ## Other steps -/

/-- Looks at the world. -/
def view (f : World → Reply) : Act Reply := do return f (← .state)

/-- Changes the world without anything to say about it. -/
def change (f : World → World) : Act Reply := do
  .modify f
  return .done

/-- Changes the world, and replies. -/
def update (f : World → World × Reply) : Act Reply := do
  let (w, reply) := f (← .state)
  .modify fun _ => w
  return reply

/-- Does something with the source of a name. -/
def withSource {α : Type} (id : String) (reply : Except SourceError α → Reply)
    (act : Nat → Act (Except SourceError α)) : Act Reply := do
  match (← .state).sourceNumber? id with
  | some n => return reply (← act n)
  | none => return reply (.error absent)

/-- Changes the scheduler of a name. -/
def changeScheduler (id : String) (f : Refresh.Scheduler → Refresh.Scheduler) : Act Reply :=
  change fun w =>
    match w.pacerNames.get? id with
    | some n => w.modifyPacer n fun p => { p with scheduler := f p.scheduler }
    | none => w

/-- Sends a signal if there is somewhere to send it. -/
def trigger (w : World) (pacer : Option Nat) (key : Option String) : World :=
  match pacer, key with
  | some n, some key => (w.send n key).1
  | _, _ => w

/-- Carries a step out. -/
def step : Step → Act Reply
  | .set setting => change setting.apply
  | .requests => update fun w =>
    ({ w with controlPlane := { w.controlPlane with requests := [] } },
      .requests w.controlPlane.requests)
  | .clusterCalls => update fun w => ({ w with clusterCalls := [] }, .paths w.clusterCalls)
  | .advance millis => do
    .sleep millis
    .giveWay
    return .done
  | .now => do return .count (← .now)
  | .metrics => view fun w => .metrics w.ledger
  | .logs => update fun w => ({ w with log := [] }, .logs w.log)
  | .ask q => question q
  | .cursors => view fun w => .cursors w.cursors
  | .concurrent _ => return .done
  | .newSource id spec => do
    let now ← .now
    update fun w =>
      match w.makeSource now id spec with
      | .error e => (w, .failed e)
      | .ok w =>
        match w.source? id with
        | some s => (w, .madeSource s.name s.priority s.pacer?.isSome)
        | none => (w, .done)
  | .pullSource id => withSource id (.ofExcept .source .snapshot) configurations
  | .lookKeyUp id key => view fun w =>
    match w.source? id with
    | some s => .ofExcept .source .value (Config.lookupKey s.current key)
    | none => .failed (.source absent)
  | .syncSource id =>
    withSource id (.ofExcept .source fun r => r) fun n => do
      match ← syncChanges n with
      | none => return .ok (.synced false [])
      | some (.ok events) => return .ok (.synced true events)
      | some (.error e) => return .error e
  | .refreshSource id => withSource id (.ofExcept .source .events) refreshed
  | .triggerSource id key => update fun w =>
    match (w.source? id).bind Source.pacer? with
    | none => (w, .flag? none)
    | some n =>
      let (w, accepted) := w.send n key
      (w, .flag? (some accepted))
  | .listen manager pattern listener => change fun w =>
    { w with managers := w.managers.insert manager ((w.manager manager).listen pattern listener) }
  | .events name => update fun w =>
    ({ w with recorders := w.recorders.erase name }, .events (w.recorded name))
  | .addSource manager id => do
    if let some n := (← .state).sourceNumber? id then addSource manager n
    return .done
  | .apply manager e => change fun w => w.apply manager e
  | .refresh manager => do
    refresh manager
    return .done
  | .run manager => view fun w => .count (w.manager manager).view.sources.length
  | .get manager key => view fun w =>
    let v := (w.manager manager).view
    .entry (v.get? key) (v.owner? key)
  | .configurations manager => view fun w => .snapshot (w.manager manager).view.values
  | .notify listener e => change fun w => w.deliver listener e
  | .publishRules cache key rules => update fun w =>
    match Egress.validate rules with
    | .error e => (w, .failed (.validation e))
    | .ok valid =>
      let after := (w.egressCache cache).publish key valid
      ({ w with egressCaches := w.egressCaches.insert cache after }.enter [after.sizeNote], .done)
  | .withdrawRules cache key => update fun w =>
    let (after, removed) := (w.egressCache cache).withdraw key
    ({ w with egressCaches := w.egressCaches.insert cache after }.enter [after.sizeNote],
      .flag removed)
  | .rulesOf cache key => view fun w =>
    .rules? (((w.egressCache cache).get? key).map Egress.ValidRules.rules)
  | .rulesSize cache => view fun w => .size (w.egressCache cache).size
  | .allRules cache => view fun w => .rules (w.egressCache cache).rules
  | .matchHost cache host => view fun w => .rule? ((w.egressCache cache).match? host)
  | .setSubset cache key subset => change fun w =>
    let after := (w.endpointCache cache).set key subset
    { w with endpointCaches := w.endpointCaches.insert cache after }.enter [after.sizeNote]
  | .deleteSubset cache key => update fun w =>
    let (after, removed) := (w.endpointCache cache).withdraw key
    ({ w with endpointCaches := w.endpointCaches.insert cache after }.enter [after.sizeNote],
      .flag removed)
  | .subsetOf cache key => view fun w => .subset? ((w.endpointCache cache).subset? key)
  | .subsetsSize cache => view fun w => .size (w.endpointCache cache).size
  | .instances cache service tags => view fun w =>
    .instances? ((w.endpointCache cache).instances? service tags)
  | .plane name caches egress endpoint => change fun w =>
    let plane : Plane :=
      { caches := caches
        egressTrigger := egress.bind w.trigger?
        endpointTrigger := endpoint.bind w.trigger? }
    { w with planes := w.planes.insert name plane }
  | .planeMatch name host => update fun w =>
    let p := w.plane name
    let a := DataPlane.matchEgress (w.egressCache p.caches) host
    (trigger w p.egressTrigger a.missing, .rule? a.result)
  | .planeInstances name service tags => update fun w =>
    let p := w.plane name
    let a := DataPlane.instancesWithTags (w.endpointCache p.caches) service tags
    (trigger w p.endpointTrigger a.missing, .instances a.result)
  | .newScheduler id period capacity => do
    let now ← .now
    change fun w =>
      let (w, n) := w.addPacer (Refresh.Scheduler.make now period capacity)
      { w with pacerNames := w.pacerNames.insert id n }
  | .send id key => update fun w =>
    match w.pacerNames.get? id with
    | none => (w, .flag false)
    | some n =>
      let (w, accepted) := w.send n key
      (w, .flag accepted)
  | .sendLater _ _ _ => return .done
  | .wait id => do
    match (← .state).pacerNames.get? id with
    | none => return .done
    | some n =>
      let w ← wakeup n
      return .wakeup w (← .now)
  | .dropScheduler id => changeScheduler id fun s => { s with queue := s.queue.dropReceiver }
  | .dropTrigger id => changeScheduler id fun s => { s with queue := s.queue.dropSender }

end Act

end SidecarAgent.Simulation
