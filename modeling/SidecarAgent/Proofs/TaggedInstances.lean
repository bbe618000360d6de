import SidecarAgent.Proofs.EndpointLookup
import SidecarAgent.Proofs.PublishedTags
import SidecarAgent.Simulation.Step

/-!
# What a look-up by tags gives

The endpoint cache looks instances up by the service that it has read from a cluster's name and by
the tags of a subset, while whoever asks gets instances.  They agree, because every entry that is
ever cached is proper (`Proper`, `AllProper.follow`): its service is that of its cluster, and its
instances name the cluster as their host and carry the tags of the subset.  A look-up that gives
nothing asks for a refresh, and one that gives something does not
(`Pipeline.instances_of_last_pull`).
-/

namespace SidecarAgent.Endpoint

open Config
open Config.Manager (heard)
open Discovery
open Simulation (Act Machine World)

/-- What a look-up finds are the instances of a cached subset that fits. -/
theorem Cache.exists_of_instances? {cache : Cache} {service : String} {tags : Tags}
    {found : List Instance} (h : cache.instances? service tags = some found) :
    ∃ k c, cache.get? k = some c ∧ c.fits service tags ∧ c.subset.instances = found := by
  obtain ⟨k, c, hc, hfits, hfound, -⟩ := Cache.instances?_eq_some_iff.1 h
  exact ⟨k, c, hc, hfits, hfound⟩

/-! ## Proper entries -/

/-- An entry is proper when its cluster is a subset of the service that it is entered for, and it
has instances, all of them of that cluster and with the tags of the subset. -/
structure Proper (cluster : String) (c : Cached) : Prop where
  service : c.service = Cache.serviceOf cluster
  isSubset : (subsetName? cluster).isSome
  hasInstances : c.subset.instances ≠ []
  instances : ∀ i ∈ c.subset.instances, i.host = cluster ∧ i.tags = c.subset.tags

/-- Every entry of a cache is proper. -/
def AllProper (cache : Cache) : Prop := ∀ k c, cache.get? k = some c → Proper k c

/-- The instances of a subset from the control plane are of its cluster and have its tags. -/
theorem instances_discoveredSubset (cluster : String) (name : ResourceName) (tags : Tags)
    (assignment : LoadAssignment) :
    ∀ i ∈ (discoveredSubset cluster name tags assignment).instances,
      i.host = cluster ∧ i.tags = (discoveredSubset cluster name tags assignment).tags := by
  intro i hi
  obtain ⟨address, -, rfl⟩ := List.mem_map.1 hi
  exact ⟨rfl, rfl⟩

/-- What is cached of a value that was built is proper. -/
theorem BuiltIn.proper {node : Node} {past : List Pulling} {key : String} {v : Value}
    (h : BuiltIn node past key v) {c : Cached} (hc : cached? key v = some c) : Proper key c := by
  obtain ⟨q, -, name, tags, assignment, hname, -, -, rfl⟩ := h
  dsimp only [cached?] at hc
  cases hempty : (discoveredSubset key name tags assignment).instances.isEmpty with
  | true =>
    rw [hempty] at hc
    cases hc
  | false =>
    rw [hempty] at hc
    cases hc
    refine ⟨rfl, by rw [hname]; rfl, ?_, instances_discoveredSubset key name tags assignment⟩
    rwa [List.isEmpty_eq_false_iff] at hempty

/-- An event that announces what was built leaves every entry proper. -/
theorem AllProper.onEvent {node : Node} {past : List Pulling} {cache : Cache} (h : AllProper cache)
    {e : Event} (he : Announces node past e) : AllProper (cache.onEvent e).1 := by
  intro k c hc
  rw [get?_onEvent] at hc
  split at hc
  · rename_i hk
    subst hk
    cases hvalue : e.change.value? with
    | none =>
      rw [hvalue] at hc
      cases hc
    | some v =>
      have hbuilt : BuiltIn node past e.key v := he.2 v hvalue
      rw [hvalue] at hc
      cases v with
      | endpointSubset subset => exact hbuilt.proper hc
      | egressRules rules => exact h e.key c hc
      | raw bytes => exact h e.key c hc
  · exact h k c hc

/-- Events that announce what was built leave every entry proper. -/
theorem AllProper.follow {node : Node} {past : List Pulling} {cache : Cache} (h : AllProper cache)
    {es : List Event} (hes : ∀ e ∈ es, Announces node past e) :
    AllProper (follower.follow cache es) := by
  induction es generalizing cache with
  | nil => exact h
  | cons e rest ih =>
    have hfirst : AllProper (cache.onEvent e).1 := h.onEvent (hes e (by simp))
    exact ih hfirst fun f hf => hes f (by simp [hf])

/-! ## Answers -/

/-- An answer serves whoever asks for instances of a service with some tags: all that it gives are
instances of the service that carry the tags, and it has the service asked for exactly when it gives
none. -/
structure Serves (service : String) (tags : Tags) (answer : DataPlane.Answer (List Instance)) :
    Prop where
  ofService : ∀ i ∈ answer.result, ∃ name, subsetName? i.host = some name ∧ name.service = service
  tagged : ∀ i ∈ answer.result, ∀ tag v, tags.get? tag = some v → i.tags.get? tag = some v
  missing : answer.missing = if answer.result = [] then some service else none

/-- A proper entry that fits a service is of a cluster that is a subset of the service. -/
theorem Proper.exists_name {cluster : String} {c : Cached} (h : Proper cluster c) {service : String}
    (hservice : c.service = some service) :
    ∃ name, subsetName? cluster = some name ∧ name.service = service := by
  obtain ⟨name, hname⟩ := Option.isSome_iff_exists.1 h.isSubset
  have hparsed : ResourceName.parse? cluster = some name := (Option.filter_eq_some_iff.1 hname).1
  have hread : Cache.serviceOf cluster = some name.service := by
    unfold Cache.serviceOf
    rw [hparsed]
    rfl
  refine ⟨name, hname, ?_⟩
  rw [h.service, hread] at hservice
  exact Option.some.inj hservice

/-- Where every entry is proper, nothing is given only when no entry fits. -/
theorem AllProper.result_eq_nil_iff {cache : Cache} (h : AllProper cache) (service : String)
    (tags : Tags) :
    (DataPlane.instancesWithTags cache service tags).result = [] ↔
      ∀ k c, cache.get? k = some c → ¬ c.fits service tags := by
  rw [← Cache.instances?_eq_none_iff]
  unfold DataPlane.instancesWithTags
  cases hfound : cache.instances? service tags with
  | none => simp
  | some found =>
    -- an entry that fits gives its instances, and a proper entry has some
    obtain ⟨k, c, hc, -, rfl⟩ := Cache.exists_of_instances? hfound
    have hinstances : c.subset.instances ≠ [] := (h k c hc).hasInstances
    simp [hinstances]

/-- Every instance that is given is one of a cached subset that fits. -/
theorem exists_of_mem_result {cache : Cache} {service : String} {tags : Tags} {i : Instance}
    (hi : i ∈ (DataPlane.instancesWithTags cache service tags).result) :
    ∃ k c, cache.get? k = some c ∧ c.service = some service ∧
      Tags.includes c.subset.tags tags = true ∧ i ∈ c.subset.instances := by
  unfold DataPlane.instancesWithTags at hi
  cases hfound : cache.instances? service tags with
  | none =>
    rw [hfound] at hi
    cases hi
  | some found =>
    rw [hfound] at hi
    obtain ⟨k, c, hc, hfits, rfl⟩ := Cache.exists_of_instances? hfound
    obtain ⟨hservice, hincludes⟩ := Cached.fits_iff.1 hfits
    exact ⟨k, c, hc, hservice, hincludes, hi⟩

/-- Where every entry is proper, a look-up serves whoever asks. -/
theorem AllProper.serves {cache : Cache} (h : AllProper cache) (service : String) (tags : Tags) :
    Serves service tags (DataPlane.instancesWithTags cache service tags) := by
  refine ⟨fun i hi => ?_, fun i hi tag v htag => ?_, ?_⟩
  · obtain ⟨k, c, hc, hservice, -, hi⟩ := exists_of_mem_result hi
    have hproper : Proper k c := h k c hc
    rw [(hproper.instances i hi).1]
    exact hproper.exists_name hservice
  · obtain ⟨k, c, hc, -, hincludes, hi⟩ := exists_of_mem_result hi
    rw [((h k c hc).instances i hi).2]
    exact (Tags.includes_iff c.subset.tags tags).1 hincludes tag v htag
  · unfold DataPlane.instancesWithTags
    cases hfound : cache.instances? service tags with
    | none => rfl
    | some found =>
      obtain ⟨k, c, hc, -, rfl⟩ := Cache.exists_of_instances? hfound
      have hinstances : c.subset.instances ≠ [] := (h k c hc).hasInstances
      exact (if_neg hinstances).symm

/-! ## Refreshes that are asked for -/

/-- Signalling a trigger leaves the caches as they are, whether the signal is accepted or not. -/
theorem caches_trigger (w : World) (pacer : Option ℕ) (key : Option String) :
    (Act.trigger w pacer key).endpointCaches = w.endpointCaches ∧
      (Act.trigger w pacer key).egressCaches = w.egressCaches := by
  unfold Act.trigger
  split
  · rename_i n key
    unfold World.send
    cases w.pacers[n]? with
    | none => exact ⟨rfl, rfl⟩
    | some p => exact ⟨rfl, rfl⟩
  · exact ⟨rfl, rfl⟩

/-- An answer that serves has a trigger signalled, if there is one, exactly when it gives nothing.
-/
theorem Serves.trigger_eq {service : String}
    {tags : Tags} {answer : DataPlane.Answer (List Instance)}
    (h : Serves service tags answer) (w : World) (pacer : Option ℕ) :
    Act.trigger w pacer answer.missing = match pacer with
      | some n => if answer.result = [] then (w.send n service).1 else w
      | none => w := by
  rw [h.missing]
  cases pacer with
  | none => rfl
  | some n =>
    by_cases hnone : answer.result = []
    · rw [if_pos hnone]
      exact (if_pos hnone).symm
    · rw [if_neg hnone]
      exact (if_neg hnone).symm

/-- A data plane that is asked for instances answers from its cache, and signals its trigger when
the answer asks for a service. -/
theorem run_planeInstances (m : Machine World) (plane service : String) (tags : Tags) :
    let p := m.state.plane plane
    let answer := DataPlane.instancesWithTags (m.state.endpointCache p.caches) service tags
    let ran := m.run (Act.step (.planeInstances plane service tags))
    ran.1 = .finished (.instances answer.result) ∧
      ran.2.state = Act.trigger m.state p.endpointTrigger answer.missing :=
  ⟨rfl, rfl⟩

namespace Pipeline

variable {node : Node} {past : List Pulling} {p : Pipeline}

/-- At any time every entry in the cache of a traced pipeline is proper. -/
theorem Traced.allProper (h : Traced node past p) {earlier later : List Event}
    (hsplit : heard [] "*" p.operations = earlier ++ later) :
    AllProper (follower.follow ∅ earlier) := by
  have hempty : AllProper ∅ := by
    intro k c hc
    cases hc
  have hannounced : ∀ e ∈ earlier, Announces node past e := by
    intro e he
    refine h.published e ?_
    rw [hsplit]
    exact List.mem_append_left later he
  exact hempty.follow hannounced

/-- After every operation the entries in the cache of a traced pipeline are proper. -/
theorem Traced.allProper_cache (h : Traced node past p) : AllProper p.cache :=
  h.allProper (List.append_nil _).symm

/-- What a sound pipeline has cached of a cluster is the subset from its last successful pull, which
has instances. -/
theorem Sound.get?_cache_eq_some_iff (h : p.Sound) {k : String} {c : Cached} :
    p.cache.get? k = some c ↔
      ∃ subset, (lastPulled p.pulls).get? k = some (.endpointSubset subset) ∧
        subset.instances ≠ [] ∧ c = ⟨Cache.serviceOf k, subset⟩ := by
  rw [h.get?_cache k, h.current]
  have hsubsets : OnlySubsets (lastPulled p.pulls) := h.current ▸ h.subsets
  cases hvalue : (lastPulled p.pulls).get? k with
  | none => simp
  | some v =>
    obtain ⟨subset, rfl⟩ := hsubsets k v hvalue
    by_cases hempty : subset.instances = []
    · simp [cached?, hempty]
    · simp only [Option.bind_some, cached?, List.isEmpty_iff, hempty, if_false, Option.some.injEq,
        Value.endpointSubset.injEq]
      constructor
      · rintro rfl
        exact ⟨subset, rfl, hempty, rfl⟩
      · rintro ⟨other, rfl, -, rfl⟩
        rfl

/-- A look-up in the cache of a traced pipeline gives instances of clusters that the last successful
pull has and lists. -/
theorem Traced.exists_pulled (h : Traced node past p) {service : String} {tags : Tags}
    {i : Instance}
    (hi : i ∈ (DataPlane.instancesWithTags p.cache service tags).result) :
    (∃ subset, (lastPulled p.pulls).get? i.host = some (.endpointSubset subset) ∧
        i ∈ subset.instances) ∧
      ∀ q s clusters, LastSuccess node past q s → q.listed node = .ok clusters →
        i.host ∈ clusters.map Cluster.name := by
  have hproper : AllProper p.cache := h.allProper_cache
  obtain ⟨k, c, hc, -, -, hmem⟩ := exists_of_mem_result hi
  have hhost : i.host = k := ((hproper k c hc).instances i hmem).1
  obtain ⟨subset, hpulled, -, rfl⟩ := h.sound.get?_cache_eq_some_iff.1 hc
  rw [hhost]
  refine ⟨⟨subset, hpulled, hmem⟩, ?_⟩
  intro q s clusters hlast hlisted
  have hsame : lastPulled p.pulls = s := h.sound.current.symm.trans (h.current_eq hlast)
  obtain ⟨-, -, -, hresult, -⟩ := hlast
  have hsome : (s.get? k).isSome := by
    rw [← hsame, hpulled]
    rfl
  exact ((Pulling.isSome_result_iff hresult hlisted k).1 hsome).1

/-- A look-up in the cache of a traced pipeline gives nothing only if the last successful pull has
no subset of the service with instances and with the tags. -/
theorem Traced.result_eq_nil_iff (h : Traced node past p) (service : String) (tags : Tags) :
    (DataPlane.instancesWithTags p.cache service tags).result = [] ↔ ¬ ∃ k name subset,
      (lastPulled p.pulls).get? k = some (.endpointSubset subset) ∧
      ResourceName.parse? k = some name ∧ name.service = service ∧ subset.instances ≠ [] ∧
      ∀ tag v, tags.get? tag = some v → subset.tags.get? tag = some v := by
  have hproper : AllProper p.cache := h.allProper_cache
  rw [hproper.result_eq_nil_iff]
  constructor
  · rintro hnone ⟨k, name, subset, hpulled, hparsed, hservice, hinstances, htags⟩
    have hcached : p.cache.get? k = some ⟨Cache.serviceOf k, subset⟩ :=
      h.sound.get?_cache_eq_some_iff.2 ⟨subset, hpulled, hinstances, rfl⟩
    have hread : Cache.serviceOf k = some service := by
      unfold Cache.serviceOf
      rw [hparsed, ← hservice]
      rfl
    exact hnone k _ hcached (Cached.fits_iff.2 ⟨hread, (Tags.includes_iff _ _).2 htags⟩)
  · intro hnone k c hc hfits
    obtain ⟨hservice, hincludes⟩ := Cached.fits_iff.1 hfits
    obtain ⟨name, hname, hsame⟩ := (hproper k c hc).exists_name hservice
    have hparsed : ResourceName.parse? k = some name := (Option.filter_eq_some_iff.1 hname).1
    obtain ⟨subset, hpulled, hinstances, rfl⟩ := h.sound.get?_cache_eq_some_iff.1 hc
    exact hnone ⟨k, name, subset, hpulled, hparsed, hsame, hinstances,
      (Tags.includes_iff _ _).1 hincludes⟩

/-- After every cycle of a run, the instances that a look-up gives for a service and tags are those
of a cluster that the last successful pull has and lists, a subset of just that service, and they
carry all of the tags; and there are none only if no cluster that the pull has of the service has
instances and tags like these.

At any moment of the run, also while events are still on their way to the cache, what is given is of
the service and carries the tags, and the service is asked for exactly when nothing is given.  A
data plane that reads the cache then signals its trigger, if it has one, for the service.  Whatever
becomes of the signal, the answer is the same and the caches stay as they are. -/
theorem instances_of_last_pull (node : Node) (name : String) (priority : ℤ) (cursors : Cursors)
    (answers : Answers) (cycles : List Cycle) (service : String) (tags : Tags) :
    let first := begin node name priority cursors answers
    let p := first.run node cycles
    let past := ⟨∅, cursors, answers⟩ :: first.pullings node cycles
    let answer := DataPlane.instancesWithTags p.cache service tags
    (∀ i ∈ answer.result,
      (∃ name, subsetName? i.host = some name ∧ name.service = service) ∧
      (∃ subset, (lastPulled p.pulls).get? i.host = some (.endpointSubset subset) ∧
        i ∈ subset.instances) ∧
      (∀ q s clusters, LastSuccess node past q s → q.listed node = .ok clusters →
        i.host ∈ clusters.map Cluster.name) ∧
      ∀ tag v, tags.get? tag = some v → i.tags.get? tag = some v) ∧
    (answer.result = [] ↔ ¬ ∃ k name subset,
      (lastPulled p.pulls).get? k = some (.endpointSubset subset) ∧
      ResourceName.parse? k = some name ∧ name.service = service ∧ subset.instances ≠ [] ∧
      ∀ tag v, tags.get? tag = some v → subset.tags.get? tag = some v) ∧
    (∀ earlier later, heard [] "*" p.operations = earlier ++ later →
      Serves service tags (DataPlane.instancesWithTags (follower.follow ∅ earlier) service tags)) ∧
    ∀ (m : Machine World) (plane : String),
      m.state.endpointCache (m.state.plane plane).caches = p.cache →
      let ran := m.run (Act.step (.planeInstances plane service tags))
      ran.1 = .finished (.instances answer.result) ∧
      ran.2.state.endpointCaches = m.state.endpointCaches ∧
      ran.2.state.egressCaches = m.state.egressCaches ∧
      ran.2.state = match (m.state.plane plane).endpointTrigger with
        | some n => if answer.result = [] then (m.state.send n service).1 else m.state
        | none => m.state := by
  intro first p past answer
  have htraced : Traced node past p :=
    (traced_begin node name priority cursors answers).run cycles
  have hproper : AllProper p.cache := htraced.allProper_cache
  have hserves : Serves service tags answer := hproper.serves service tags
  refine ⟨fun i hi => ?_, htraced.result_eq_nil_iff service tags, fun earlier later hsplit => ?_,
    fun m plane hcache => ?_⟩
  · obtain ⟨hpulled, hlisted⟩ := htraced.exists_pulled hi
    exact ⟨hserves.ofService i hi, hpulled, hlisted, hserves.tagged i hi⟩
  · exact (htraced.allProper hsplit).serves service tags
  · intro ran
    obtain ⟨hreply, hstate⟩ := run_planeInstances m plane service tags
    rw [hcache] at hreply hstate
    obtain ⟨hendpoints, hegress⟩ :=
      caches_trigger m.state (m.state.plane plane).endpointTrigger answer.missing
    refine ⟨hreply, ?_, ?_, hstate.trans (hserves.trigger_eq _ _)⟩
    · exact (congrArg World.endpointCaches hstate).trans hendpoints
    · exact (congrArg World.egressCaches hstate).trans hegress

/-- An instance is given through an outage of the look-ups of tags, and the last successful pull, in
which they were out already, has it. -/
theorem instance_through_outage :
    let node : Node := ⟨"pod", "shop", "10.0.0.1"⟩
    let tags : Tags := (∅ : Tags).insert "version" "v1"
    let p := (begin node "endpoints" 8 Cursors.start (webAnswers (some tags))).run node outage
    ∃ i ∈ (DataPlane.instancesWithTags p.cache "web" tags).result,
      (∃ name, subsetName? i.host = some name ∧ name.service = "web") ∧
      ∃ subset, (lastPulled p.pulls).get? i.host = some (.endpointSubset subset) ∧
        i ∈ subset.instances := by
  intro node tags p
  have hgiven : Instance.ofAddress webCluster "10.0.0.7:80" tags ∈
      (DataPlane.instancesWithTags p.cache "web" tags).result := by decide +kernel
  obtain ⟨hname, hpulled, -, -⟩ := (instances_of_last_pull node "endpoints" 8 Cursors.start
    (webAnswers (some tags)) outage "web" tags).1 _ hgiven
  exact ⟨_, hgiven, hname, hpulled⟩

end Pipeline

end SidecarAgent.Endpoint
