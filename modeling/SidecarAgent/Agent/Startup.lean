import SidecarAgent.Agent.Settings
import SidecarAgent.Config.Manager
import SidecarAgent.Discovery.Session
import SidecarAgent.Egress.Backend
import SidecarAgent.Egress.Publisher
import SidecarAgent.Endpoint.Discovered
import SidecarAgent.Endpoint.Publisher
import SidecarAgent.Kubernetes.ClientConfig
import SidecarAgent.Network.SocketAddress
import SidecarAgent.Refresh.Limits

/-!
# Starting an agent

An agent that starts learns who it is, checks its addresses, selects where egress rules come from,
and asks its sources for the first time.  It is ready when both managers have their sources; a
source that cannot be asked starts out empty and keeps nobody from getting ready.
-/

namespace SidecarAgent.Agent

open Config (Event Manager PolledSource Snapshot SourceError)
open Discovery
open Egress (BackendSource)
open Network (Uri)
open Refresh (ScheduleFault)
open Telemetry (Note)
open Time (Duration)

/-! ## Surroundings and endings -/

/-- What an agent finds where it is started: variables, the machine's own address, files, the file
for cluster access, what becomes of requests to the control plane and the cluster, and what the
clock tells when the schedule of either side is made. -/
structure Surroundings where
  environment : String → Option String
  detectedAddress : Option String := none
  file : String → Option (List UInt8)
  clusterConfig : Option (List UInt8) := none
  answer : Uri → Request → Outcome := fun uri _ => refusal uri
  clusterTags : SubsetQuery → Option Tags := fun _ => none
  egressClock : Duration := .ofSeconds 0
  endpointClock : Duration := .ofSeconds 0

/-- An agent that is ready: its managers with their sources, and the caches they keep. -/
structure Running where
  cursors : Cursors
  egress : Manager (BackendSource PolledSource) Unit
  egressCache : Egress.Cache
  endpoints : Manager PolledSource Unit
  endpointCache : Endpoint.Cache

/-- Why an agent does not start. -/
inductive StartError where
  | identity (cause : IdentityError)
  | metricsAddress
  | controlPlaneAddress
  | backend (cause : Egress.BackendError)
  deriving DecidableEq

/-- The wording of an error. -/
def StartError.message : StartError → String
  | identity cause => cause.message
  | metricsAddress => "invalid socket address syntax"
  | controlPlaneAddress => "invalid URI"
  | backend cause => cause.message

/-- How a start ends: the agent is ready, or refuses to start, or breaks down over a schedule that
cannot be kept. -/
inductive Ending where
  | ready (agent : Running)
  | refused (why : StartError)
  | broken (fault : ScheduleFault)

/-- An ending, and what was noted before it. -/
structure Report where
  ending : Ending
  notes : List Note := []

/-- A report that begins with some notes. -/
def Report.after (notes : List Note) (r : Report) : Report := { r with notes := notes ++ r.notes }

/-! ## Sources -/

/-- Hands events to a cache, one after another. -/
def deliver {κ : Type} (onEvent : κ → Event → κ × List Note) (cache : κ) :
    List Event → κ × List Note
  | [] => (cache, [])
  | e :: rest =>
    let (cache, notes) := onEvent cache e
    let (cache, later) := deliver onEvent cache rest
    (cache, notes ++ later)

/-- A manager with one listener, for every key. -/
def listening {ι : Type} : Manager ι Unit := ({} : Manager ι Unit).listen "*" ()

/-- Adds the first source to a manager, and tells the cache that listens. -/
def addFirst {ι κ : Type} (onEvent : κ → Event → κ × List Note) (empty : κ) (name : String)
    (priority : Int) (source : ι) (pulled : Option Snapshot) : Manager ι Unit × κ × List Note :=
  let effect := listening.addSource name priority source pulled
  let (cache, notes) := deliver onEvent empty (effect.deliveries.map Prod.snd)
  (effect.manager, cache, effect.notes ++ notes)

/-- Has a source build its first snapshot. -/
def pullFirst (peer : Peer) (cursors : Cursors) (source : PolledSource)
    (pull : Dialogue (Except DiscoveryError Snapshot)) :
    Session (PolledSource × Except SourceError Snapshot) :=
  let s := pull.carryOut peer cursors
  { result := source.replace s.result
    cursors := s.cursors
    notes := source.beginNotes ++ s.notes ++ source.endNotes }

/-- The source of derived egress rules. -/
def derivedSource : PolledSource := ⟨Egress.derivedSourceName, Egress.derivedSourcePriority, ∅⟩

/-- The source of discovered subsets. -/
def discoveredSource : PolledSource :=
  ⟨Endpoint.discoveredSourceName, Endpoint.discoveredSourcePriority, ∅⟩

/-! ## Stages -/

/-- What the surroundings know of the rule file that is set. -/
def ruleFile? (settings : Settings) (around : Surroundings) : Option Egress.FileContent :=
  settings.egressFile.map fun path => ⟨path, around.file path⟩

/-- The last stage: the endpoint side, after which the agent is ready. -/
def startEndpoints (settings : Settings) (around : Surroundings) (peer : Peer) (cursors : Cursors)
    (egress : Manager (BackendSource PolledSource) Unit) (egressCache : Egress.Cache) : Report :=
  match Refresh.scheduleFault? around.endpointClock settings.endpointRefreshInterval
      settings.triggerCapacity with
  | some fault => { ending := .broken fault }
  | none =>
    let s := pullFirst peer cursors discoveredSource (Endpoint.pull ∅)
    let (source, pulled) := s.result
    let (endpoints, cache, notes) :=
      addFirst Endpoint.Cache.onEvent ∅ source.name source.priority source pulled.toOption
    let ready := Note.info "sources ready" [("egress_backend", settings.egressBackend)]
    { ending := .ready ⟨s.cursors, egress, egressCache, endpoints, cache⟩
      notes := s.notes ++ notes ++ [ready] }

/-- The egress side. -/
def startEgress (settings : Settings) (around : Surroundings) (peer : Peer) : Report :=
  match Egress.select settings.egressBackend (some derivedSource) (ruleFile? settings around) with
  | .error e => { ending := .refused (.backend e) }
  | .ok (.ruleFile file) =>
    let (manager, cache, notes) :=
      addFirst Egress.Cache.onEvent ∅ Egress.fileSourceName Egress.fileSourcePriority
        (.ruleFile file) (some file.snapshot)
    (startEndpoints settings around peer Cursors.start manager cache).after notes
  | .ok (.controlPlane source) =>
    match Refresh.scheduleFault? around.egressClock settings.egressRefreshInterval
        settings.triggerCapacity with
    | some fault => { ending := .broken fault }
    | none =>
      let s := pullFirst peer Cursors.start source Egress.pull
      let (source, pulled) := s.result
      let (manager, cache, notes) :=
        addFirst Egress.Cache.onEvent ∅ source.name source.priority (.controlPlane source)
          pulled.toOption
      (startEndpoints settings around peer s.cursors manager cache).after (s.notes ++ notes)

/-- How tags are looked up, and what is noted about it: a cluster is asked only if it is wanted and
can be reached, and otherwise no subset has tags. -/
def tagLookup (settings : Settings) (around : Surroundings) :
    (SubsetQuery → Option Tags) × List Note :=
  if settings.noSubsetTags then (fun _ => some ∅, [])
  else if Kubernetes.hasAccess around.clusterConfig then (around.clusterTags, [])
  else
    (fun _ => some ∅, [Note.warn "no kubernetes client, subsets will have no tags" []])

/-- The addresses, before anything is asked. -/
def startAs (settings : Settings) (around : Surroundings) (node : Node) : Report :=
  if settings.metricsAddress.any fun a => !Network.isSocketAddress a then
    { ending := .refused .metricsAddress }
  else
    match Uri.parse? settings.controlPlane with
    | none => { ending := .refused .controlPlaneAddress }
    | some uri =>
      let (tags, notes) := tagLookup settings around
      (startEgress settings around ⟨node, around.answer uri, tags⟩).after notes

/-- Starts an agent. -/
def start (settings : Settings) (around : Surroundings) : Report :=
  let detection :=
    match Node.setting? around.environment "INSTANCE_IP" with
    | some _ => []
    | none => [Note.warn "INSTANCE_IP is not set, detecting the local address" []]
  match Node.ofEnvironment around.environment around.detectedAddress with
  | .error e => { ending := .refused (.identity e), notes := detection }
  | .ok node =>
    (startAs settings around node).after
      (detection ++ [Note.info "starting" [("node_id", node.id)]])

end SidecarAgent.Agent
