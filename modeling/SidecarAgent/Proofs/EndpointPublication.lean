import SidecarAgent.Proofs.OnlySource
import SidecarAgent.Proofs.PulledSubsets
import SidecarAgent.Proofs.Publishing

/-!
# What the endpoint cache holds

A `Pipeline` is a manager with one source, whose subsets come from the control plane, and a cache
that listens to it for every key.  The source is refreshed in cycles, by its own loop or by its
manager, and every pull may fail.  After every cycle the manager has what the last successful pull
has (`sound_run`), and the cache has the same without the subsets that are empty
(`Sound.get?_cache`).
-/

namespace SidecarAgent.Endpoint

open Config
open Config.Manager (after heard)
open Discovery (Answers Cursors DiscoveryError Node)

/-! ## Entries -/

/-- What the cache has of a value: a subset with instances. -/
def cached? (cluster : String) : Value → Option Cached
  | .endpointSubset subset =>
    if subset.instances.isEmpty then none else some ⟨Cache.serviceOf cluster, subset⟩
  | .egressRules _ | .raw _ => none

/-- The entry of a cluster after its new value: a subset with instances, or nothing.  Values of
another kind leave it as it is. -/
def enter (cluster : String) (entry : Option Cached) : Option Value → Option Cached
  | some (.endpointSubset subset) => cached? cluster (.endpointSubset subset)
  | some (.egressRules _) | some (.raw _) => entry
  | none => none

/-- An event enters the new value of its key, and no other. -/
theorem get?_onEvent (cache : Cache) (e : Event) (k : String) :
    (cache.onEvent e).1.get? k =
      if k = e.key then enter k (cache.get? k) e.change.value? else cache.get? k := by
  unfold Cache.onEvent
  cases hvalue : e.change.value? with
  | none =>
    show (cache.erase e.key).get? k = _
    rw [KeyMap.get?_erase]
    rfl
  | some v =>
    cases v with
    | endpointSubset subset =>
      dsimp only [enter, cached?]
      cases subset.instances.isEmpty with
      | true =>
        show (cache.erase e.key).get? k = _
        rw [KeyMap.get?_erase]
        rfl
      | false =>
        show (cache.insert e.key ⟨Cache.serviceOf e.key, subset⟩).get? k = _
        rw [KeyMap.get?_insert]
        by_cases hk : k = e.key
        · rw [if_pos hk, if_pos hk, hk]
          rfl
        · rw [if_neg hk, if_neg hk]
    | egressRules rules =>
      show cache.get? k = if k = e.key then cache.get? k else cache.get? k
      rw [ite_self]
    | raw bytes =>
      show cache.get? k = if k = e.key then cache.get? k else cache.get? k
      rw [ite_self]

/-- Entering a value twice is entering it once. -/
theorem enter_enter (cluster : String) (entry : Option Cached) (value : Option Value) :
    enter cluster (enter cluster entry value) value = enter cluster entry value := by
  cases value with
  | none => rfl
  | some v => cases v <;> rfl

/-- The endpoint cache as a follower. -/
def follower : Follower Cache Cached where
  onEvent := Cache.onEvent
  look := KeyMap.get?
  enter := enter
  look_onEvent := get?_onEvent
  enter_enter := enter_enter

/-- An empty cache is settled where there are no values. -/
theorem settled_empty : follower.Settled ∅ ∅ := fun _ => rfl

/-- Where there are only subsets, a settled cache has those with instances. -/
theorem get?_of_settled {cache : Cache} {s : Snapshot} (hsettled : follower.Settled cache s)
    (hs : OnlySubsets s) (k : String) : cache.get? k = (s.get? k).bind (cached? k) := by
  have hk : enter k (cache.get? k) (s.get? k) = cache.get? k := hsettled k
  -- what is entered of no value, or of a subset, does not depend on the entry before
  rw [← hk]
  cases hvalue : s.get? k with
  | none => rfl
  | some v =>
    obtain ⟨subset, rfl⟩ := hs k v hvalue
    rfl

/-- A subset is cached when it has instances. -/
theorem subset?_eq_some_iff {cache : Cache} {s : Snapshot} (hs : OnlySubsets s) {k : String}
    (hget : cache.get? k = (s.get? k).bind (cached? k)) {subset : Subset} :
    cache.subset? k = some subset ↔
      s.get? k = some (.endpointSubset subset) ∧ subset.instances ≠ [] := by
  unfold Cache.subset?
  rw [hget]
  cases hvalue : s.get? k with
  | none => simp
  | some v =>
    obtain ⟨other, rfl⟩ := hs k v hvalue
    by_cases hempty : other.instances = []
    · simp only [Option.bind_some, cached?, hempty, List.isEmpty_nil, if_true, Option.map_none]
      constructor
      · intro h
        cases h
      · rintro ⟨heq, hinstances⟩
        cases heq
        exact absurd hempty hinstances
    · have hfalse : other.instances.isEmpty = false := by
        rwa [List.isEmpty_eq_false_iff]
      simp only [Option.bind_some, cached?, hfalse]
      constructor
      · intro h
        cases h
        exact ⟨rfl, hempty⟩
      · rintro ⟨heq, -⟩
        cases heq
        rfl

/-- No cached subset is empty. -/
def NoneEmpty (cache : Cache) : Prop := ∀ k c, cache.get? k = some c → c.subset.instances ≠ []

/-- An event caches no empty subset. -/
theorem noneEmpty_onEvent {cache : Cache} (h : NoneEmpty cache) (e : Event) :
    NoneEmpty (cache.onEvent e).1 := by
  intro k c hc
  rw [get?_onEvent] at hc
  split at hc
  · cases hvalue : e.change.value? with
    | none =>
      rw [hvalue] at hc
      cases hc
    | some v =>
      rw [hvalue] at hc
      cases v with
      | endpointSubset subset =>
        dsimp only [enter, cached?] at hc
        split at hc
        · cases hc
        · rename_i hinstances
          cases hc
          simpa using hinstances
      | egressRules rules => exact h k c hc
      | raw bytes => exact h k c hc
  · exact h k c hc

/-- Events cache no empty subset. -/
theorem noneEmpty_follow {cache : Cache} (h : NoneEmpty cache) (es : List Event) :
    NoneEmpty (follower.follow cache es) := by
  induction es generalizing cache with
  | nil => exact h
  | cons e rest ih => exact ih (noneEmpty_onEvent h e)

/-! ## The pipeline -/

/-- Who asks the source in a cycle: the loop that refreshes it, or its manager. -/
inductive Driver where
  | loop
  | manager

/-- A cycle: who asks the source, the cursors of its connection by then, which others use as well,
and what becomes of its questions. -/
structure Cycle where
  driver : Driver
  cursors : Cursors
  answers : Answers

/-- How a pull ends after some snapshot. -/
def pulled (node : Node) (previous : Snapshot) (cursors : Cursors) (answers : Answers) :
    Except DiscoveryError Snapshot :=
  ((pull previous).answered node answers cursors).result

/-- A pull of subsets: what there was before it, the cursors that it begins with, and what becomes
of its questions. -/
structure Pulling where
  previous : Snapshot
  cursors : Cursors
  answers : Answers

/-- How a pull ends. -/
def Pulling.result (node : Node) (q : Pulling) : Except DiscoveryError Snapshot :=
  pulled node q.previous q.cursors q.answers

/-- The source of a pipeline, how its pulls ended, and what was done with its manager. -/
structure Pipeline where
  source : PolledSource
  pulls : List (Except DiscoveryError Snapshot)
  operations : List (Operation Unit)

/-- What a driver does with the manager when the source has answered.  The loop applies the changes
itself. -/
def Driver.operations : Driver → Except SourceError (List Event) → List (Operation Unit)
  | loop, .ok events => events.map .apply
  | loop, .error _ => []
  | manager, .ok events => [.refresh fun _ => .changed events]
  | manager, .error _ => [.refresh fun _ => .failed]

/-- The last of some results that is a success, if there is one. -/
def lastOk {ε α : Type} (results : List (Except ε α)) : Option α :=
  (results.filterMap Except.toOption).getLast?

/-- A success is the last one. -/
theorem lastOk_concat_ok {ε α : Type} (results : List (Except ε α)) (a : α) :
    lastOk (results ++ [.ok a]) = some a := by
  unfold lastOk
  rw [List.filterMap_append]
  exact List.getLast?_concat

/-- Failures leave the last success as it is. -/
theorem lastOk_append_of_error {ε α : Type}
    (results : List (Except ε α)) {failed : List (Except ε α)}
    (h : ∀ r ∈ failed, ∃ e, r = .error e) : lastOk (results ++ failed) = lastOk results := by
  have hnone : failed.filterMap Except.toOption = [] := by
    rw [List.filterMap_eq_nil_iff]
    intro r hr
    obtain ⟨e, rfl⟩ := h r hr
    rfl
  unfold lastOk
  rw [List.filterMap_append, hnone, List.append_nil]

/-- What the last successful pull resulted in, nothing if there was none. -/
def lastPulled (pulls : List (Except DiscoveryError Snapshot)) : Snapshot :=
  (pulls.filterMap Except.toOption).getLast?.getD ∅

namespace Pipeline

/-- A pipeline begins with a source that is added to a manager, and asked for the first time. -/
def begin (node : Node) (name : String) (priority : ℤ) (cursors : Cursors) (answers : Answers) :
    Pipeline :=
  let source : PolledSource := ⟨name, priority, ∅⟩
  let result := pulled node ∅ cursors answers
  let (source, first) := source.replace result
  ⟨source, [result], [.addSource name priority () first.toOption]⟩

/-- The pipeline after a cycle. -/
def cycle (node : Node) (p : Pipeline) (c : Cycle) : Pipeline :=
  let result := pulled node p.source.current c.cursors c.answers
  let (source, changes) := p.source.refresh result
  ⟨source, p.pulls ++ [result], p.operations ++ c.driver.operations changes⟩

/-- The pipeline after some cycles. -/
def run (node : Node) (p : Pipeline) (cycles : List Cycle) : Pipeline := cycles.foldl (cycle node) p

/-- The pulls of some cycles of a pipeline: each with what the source had before it. -/
def pullings (node : Node) : Pipeline → List Cycle → List Pulling
  | _, [] => []
  | p, c :: rest => ⟨p.source.current, c.cursors, c.answers⟩ :: pullings node (p.cycle node c) rest

/-- The manager of a pipeline.  The cache listens before the source is added. -/
def manager (p : Pipeline) : Manager Unit ℕ := after (.listen "*" :: p.operations)

/-- The cache of a pipeline. -/
def cache (p : Pipeline) : Cache := follower.follow ∅ (heard [] "*" p.operations)

/-! ## What a cycle keeps -/

/-- A pipeline is sound when its source has what was pulled last, which is subsets only, and its
manager has the same of the source, and no other source. -/
structure Sound (p : Pipeline) : Prop where
  current : p.source.current = lastPulled p.pulls
  subsets : OnlySubsets p.source.current
  hasOnly : p.manager.HasOnly ⟨p.source.name, p.source.priority, (), p.source.current⟩

/-- A successful pull is the last one. -/
theorem lastPulled_concat_ok (pulls : List (Except DiscoveryError Snapshot)) (s : Snapshot) :
    lastPulled (pulls ++ [.ok s]) = s :=
  congrArg (Option.getD · ∅) (lastOk_concat_ok pulls s)

/-- Failed pulls leave the last one as it is. -/
theorem lastPulled_append_of_error (pulls : List (Except DiscoveryError Snapshot))
    {failed : List (Except DiscoveryError Snapshot)} (h : ∀ r ∈ failed, ∃ e, r = .error e) :
    lastPulled (pulls ++ failed) = lastPulled pulls :=
  congrArg (Option.getD · ∅) (lastOk_append_of_error pulls h)

/-- A pull results in subsets only, if there were subsets only before. -/
theorem onlySubsets_of_pulled {node : Node} {previous s : Snapshot} {cursors : Cursors}
    {answers : Answers} (hprevious : OnlySubsets previous)
    (h : pulled node previous cursors answers = .ok s) : OnlySubsets s :=
  (always_pull hprevious).answered node answers cursors s h

/-- A pipeline begins sound. -/
theorem sound_begin (node : Node) (name : String) (priority : ℤ) (cursors : Cursors)
    (answers : Answers) : (begin node name priority cursors answers).Sound := by
  have hadded : ∀ first : Option Snapshot,
      (after [.listen "*", .addSource name priority () first]).HasOnly
        ⟨name, priority, (), first.getD ∅⟩ :=
    fun first => Manager.hasOnly_addSource rfl name priority () first
  unfold begin
  cases hresult : pulled node ∅ cursors answers with
  | ok s =>
    refine ⟨(lastPulled_concat_ok [] s).symm, ?_, hadded (some s)⟩
    exact onlySubsets_of_pulled onlySubsets_empty hresult
  | error e => exact ⟨rfl, onlySubsets_empty, hadded none⟩

/-- Operations that a pipeline adds are carried out on its manager. -/
theorem manager_append (source : PolledSource) (pulls : List (Except DiscoveryError Snapshot))
    (operations more : List (Operation Unit)) :
    (Pipeline.mk source pulls (operations ++ more)).manager =
      ((Pipeline.mk source pulls operations).manager.run more).manager :=
  Manager.manager_run_append {} (.listen "*" :: operations) more

/-- A successful answer brings the only source of a manager to its new snapshot. -/
theorem hasOnly_run_ok {m : Manager Unit ℕ} {r : Registered Unit} (h : m.HasOnly r)
    (driver : Driver) (new : Snapshot) :
    (m.run (driver.operations (.ok (diff r.name r.snapshot new)))).manager.HasOnly
      { r with snapshot := new } := by
  have hsource : ∀ e ∈ diff r.name r.snapshot new, e.source = r.name :=
    fun e he => source_of_mem_diff he
  have hreplay : (diff r.name r.snapshot new).foldl Event.replay r.snapshot = new :=
    (leads_diff r.name r.snapshot new).foldl_replay_eq
  cases driver with
  | loop =>
    -- the loop applies the changes one by one, as a refresh does before it merges everything
    show (m.run ((diff r.name r.snapshot new).map .apply)).manager.HasOnly _
    rw [← Manager.applyAll_eq_run]
    have happlied := h.applyAll hsource
    rwa [hreplay] at happlied
  | manager =>
    have hrefreshed := h.refresh_changed hsource
    rwa [hreplay] at hrefreshed

/-- A successful answer of the only source is published as the difference to its last snapshot. -/
theorem deliveries_run_ok {m : Manager Unit ℕ} {r : Registered Unit} (h : m.HasOnly r)
    (hm : m.view.Resolved) (driver : Driver) (new : Snapshot) :
    (m.run (driver.operations (.ok (diff r.name r.snapshot new)))).deliveries =
      m.dispatch (diff r.name r.snapshot new) := by
  have hsource : ∀ e ∈ diff r.name r.snapshot new, e.source = r.name :=
    fun e he => source_of_mem_diff he
  have hleads : Leads r.snapshot (diff r.name r.snapshot new) new :=
    leads_diff r.name r.snapshot new
  cases driver with
  | loop =>
    show (m.run ((diff r.name r.snapshot new).map .apply)).deliveries = _
    rw [← Manager.applyAll_eq_run]
    exact (h.deliveries_applyAll hm hsource hleads).1
  | manager =>
    show (m.refresh fun _ => .changed _).deliveries ++ [] = _
    rw [List.append_nil]
    exact h.deliveries_refresh_changed hm hsource hleads

/-- A failure leaves the only source of a manager as it is. -/
theorem hasOnly_run_error {m : Manager Unit ℕ} {r : Registered Unit} (h : m.HasOnly r)
    (driver : Driver) (e : SourceError) :
    (m.run (driver.operations (.error e))).manager.HasOnly r := by
  cases driver with
  | loop => exact h
  | manager => exact h.refresh_failed

/-- A failure is not published. -/
theorem deliveries_run_error {m : Manager Unit ℕ} (hm : m.view.Resolved) (driver : Driver)
    (e : SourceError) : (m.run (driver.operations (.error e))).deliveries = [] := by
  cases driver with
  | loop => rfl
  | manager =>
    show (m.refresh fun _ => .failed).deliveries ++ [] = _
    rw [(Manager.refresh_failed hm).2]
    rfl

/-- A cycle keeps a pipeline sound. -/
theorem sound_cycle (node : Node) {p : Pipeline} (h : p.Sound) (c : Cycle) :
    (p.cycle node c).Sound := by
  unfold cycle
  cases hresult : pulled node p.source.current c.cursors c.answers with
  | ok s =>
    refine ⟨(lastPulled_concat_ok p.pulls s).symm, onlySubsets_of_pulled h.subsets hresult, ?_⟩
    show (Pipeline.mk _ _ (p.operations ++ _)).manager.HasOnly _
    rw [manager_append]
    exact hasOnly_run_ok h.hasOnly c.driver s
  | error e =>
    refine ⟨?_, h.subsets, ?_⟩
    · rw [lastPulled_append_of_error p.pulls (by simp)]
      exact h.current
    · show (Pipeline.mk _ _ (p.operations ++ _)).manager.HasOnly _
      rw [manager_append]
      exact hasOnly_run_error h.hasOnly c.driver _

/-- Cycles keep a pipeline sound. -/
theorem sound_run (node : Node) {p : Pipeline} (h : p.Sound) (cycles : List Cycle) :
    (p.run node cycles).Sound := by
  induction cycles generalizing p with
  | nil => exact h
  | cons c rest ih => exact ih (sound_cycle node h c)

/-- Every cycle pulls once, and what its pull comes to is kept behind those before it. -/
theorem pulls_run (node : Node) (p : Pipeline) (cycles : List Cycle) :
    (p.run node cycles).pulls =
      p.pulls ++ (p.pullings node cycles).map (Pulling.result node) := by
  induction cycles generalizing p with
  | nil => exact (List.append_nil _).symm
  | cons c rest ih =>
    refine (ih (p.cycle node c)).trans ?_
    rw [pullings, List.map_cons, List.append_cons]
    rfl

/-- The merged values of a pipeline are resolved. -/
theorem resolved_manager (p : Pipeline) : p.manager.view.Resolved :=
  (Manager.orderly_run Manager.orderly_empty (.listen "*" :: p.operations)).resolved

/-- Further operations are heard behind those before them. -/
theorem heard_append (operations more : List (Operation Unit)) :
    heard [] "*" (operations ++ more) = heard [] "*" operations ++
      Manager.received 0 ((after (.listen "*" :: operations)).run more).deliveries := by
  have hsplit := Manager.deliveries_run_append ({} : Manager Unit ℕ)
    (.listen "*" :: operations) more
  show Manager.received 0 (Manager.run {} ((.listen "*" :: operations) ++ more)).deliveries = _
  rw [hsplit, Manager.received_append]
  rfl

/-- The cache hears all that is dispatched. -/
theorem received_dispatch (operations : List (Operation Unit)) (es : List Event) :
    Manager.received 0 ((after (.listen "*" :: operations)).dispatch es) = es := by
  have hlistens : (KeyPattern.parse "*", 0) ∈ (after (.listen "*" :: operations)).listeners :=
    Manager.mem_listeners_run (m := Manager.listen {} "*" 0) List.mem_cons_self operations
  exact Manager.received_dispatch_star (Manager.numbered_after _) hlistens es

/-- A pipeline begins by publishing all that its source has. -/
theorem heard_begin (node : Node) (name : String) (priority : ℤ) (cursors : Cursors)
    (answers : Answers) :
    heard [] "*" (begin node name priority cursors answers).operations =
      diff name ∅ (begin node name priority cursors answers).source.current := by
  have hadded : ∀ first : Option Snapshot,
      heard [] "*" [.addSource name priority () first] = diff name ∅ (first.getD ∅) := by
    intro first
    have hdeliveries := Manager.deliveries_addSource_first (m := after [.listen "*"]) rfl
      (resolved_manager ⟨⟨name, priority, ∅⟩, [], []⟩) name priority () first
    have hheard := heard_append [] [.addSource name priority () first]
    have hfirst : ((after [.listen "*"]).run [.addSource name priority () first]).deliveries =
        ((after [.listen "*"]).addSource name priority () first).deliveries := List.append_nil _
    rw [hfirst, hdeliveries, creations_eq_diff, received_dispatch] at hheard
    exact hheard
  unfold begin
  cases pulled node ∅ cursors answers with
  | ok s => exact hadded (some s)
  | error e => exact hadded none

/-- A cycle of a sound pipeline fails, and leaves its source and publishes nothing, or it brings the
source to what was pulled and publishes the difference. -/
theorem Sound.cycle_cases {p : Pipeline} (h : p.Sound) (node : Node) (c : Cycle) :
    (∃ e, pulled node p.source.current c.cursors c.answers = .error e ∧
      (p.cycle node c).source = p.source ∧
      heard [] "*" (p.cycle node c).operations = heard [] "*" p.operations) ∨
    ∃ s, pulled node p.source.current c.cursors c.answers = .ok s ∧
      (p.cycle node c).source = { p.source with current := s } ∧
      heard [] "*" (p.cycle node c).operations =
        heard [] "*" p.operations ++ diff p.source.name p.source.current s := by
  have hoperations : (p.cycle node c).operations = p.operations ++ c.driver.operations
      (p.source.refresh (pulled node p.source.current c.cursors c.answers)).2 := rfl
  have hsource : (p.cycle node c).source =
      (p.source.refresh (pulled node p.source.current c.cursors c.answers)).1 := rfl
  rw [hoperations, hsource, heard_append]
  cases pulled node p.source.current c.cursors c.answers with
  | error e =>
    refine .inl ⟨e, rfl, rfl, ?_⟩
    have hrefresh : (p.source.refresh (.error e)).2 = .error (.discovery e) := rfl
    have hnothing := deliveries_run_error p.resolved_manager c.driver (.discovery e)
    show _ ++ Manager.received 0 (p.manager.run _).deliveries = _
    rw [hrefresh, hnothing]
    exact List.append_nil _
  | ok s =>
    refine .inr ⟨s, rfl, rfl, ?_⟩
    have hrefresh : (p.source.refresh (.ok s)).2 = .ok (diff p.source.name p.source.current s) :=
      rfl
    have hdeliveries := deliveries_run_ok h.hasOnly p.resolved_manager c.driver s
    show _ ++ Manager.received 0 (p.manager.run _).deliveries = _
    rw [hrefresh, hdeliveries]
    exact congrArg _ (received_dispatch p.operations _)

/-- The manager of a sound pipeline has the values of its source. -/
theorem Sound.values_eq {p : Pipeline} (h : p.Sound) : p.manager.view.values = p.source.current :=
  h.hasOnly.values_eq p.resolved_manager

/-- The cache of a sound pipeline has the subsets of its source that have instances. -/
theorem Sound.get?_cache {p : Pipeline} (h : p.Sound) (k : String) :
    p.cache.get? k = (p.source.current.get? k).bind (cached? k) := by
  have hsettled : follower.Settled p.cache p.manager.view.values :=
    follower.settled_follow_heard [] p.operations settled_empty
  rw [h.values_eq] at hsettled
  exact get?_of_settled hsettled h.subsets k

/-- However the cycles of a pipeline are driven and answered, each of them pulls once, and after
every one of them the source has the snapshot of the last pull that succeeded, the manager has the
values of that snapshot, and the cache has exactly those of its subsets that have instances.  At no
time does it have an empty one. -/
theorem cache_holds_last_pull (node : Node) (name : String) (priority : ℤ) (cursors : Cursors)
    (answers : Answers) (cycles : List Cycle) :
    let first := begin node name priority cursors answers
    let p := first.run node cycles
    p.pulls = (⟨∅, cursors, answers⟩ :: first.pullings node cycles).map (Pulling.result node) ∧
    p.source.current = lastPulled p.pulls ∧ p.manager.view.values = lastPulled p.pulls ∧
    (∀ k s, p.cache.subset? k = some s ↔
      (lastPulled p.pulls).get? k = some (.endpointSubset s) ∧ s.instances ≠ []) ∧
    (∀ k, p.cache.get? k = ((lastPulled p.pulls).get? k).bind (cached? k)) ∧
    ∀ earlier later, heard [] "*" p.operations = earlier ++ later →
      NoneEmpty (follower.follow ∅ earlier) := by
  intro first p
  have hsound : p.Sound := sound_run node (sound_begin node name priority cursors answers) cycles
  rw [← hsound.current]
  refine ⟨pulls_run node first cycles, rfl, hsound.values_eq, fun k s => ?_, hsound.get?_cache,
    fun earlier later _ => ?_⟩
  · exact subset?_eq_some_iff hsound.subsets (hsound.get?_cache k)
  · refine noneEmpty_follow (fun k c hc => ?_) earlier
    cases hc

end Pipeline

end SidecarAgent.Endpoint
