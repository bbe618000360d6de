import SidecarAgent.Proofs.CursorHistory
import SidecarAgent.Proofs.EndpointPublication

/-!
# Where pulled subsets come from

A pull of subsets looks tags up for every listed cluster that is a subset, in the order of the list.
`Collects` says what it makes of them, one cluster at a time: where there are tags, a new subset
with the endpoints that the control plane gives, and where there are none, what the snapshot before
had.  Every pull that succeeds collects (`collects_pullClusters`), and what is collected has a key
exactly where there is something to publish under it (`Collects.isSome_iff`), and a value that was
there before or comes from a look-up that found something (`Collects.value_cases`).
-/

namespace SidecarAgent.Discovery

/-- The look-ups of a dialogue that gets some answers, each with the tags that it finds. -/
def Dialogue.lookups {α : Type} (node : Node) :
    Answers → Dialogue α → Cursors → List (SubsetQuery × Option Tags)
  | _, .done _, _ => []
  | answers, .note _ next, cursors => next.lookups node answers cursors
  | answers, .lookup query next, cursors =>
    (query, answers.tags 0 query) ::
      (next (answers.tags 0 query)).lookups node answers.afterLookup cursors
  | answers, .discover t names next, cursors =>
    let outcome := answers.outcome 0 (Request.make cursors node t names)
    (next (outcome.resources t t.decode?)).lookups node answers.afterRequest
      (outcome.advance t t.decode? cursors)

/-- An exchange gives the endpoints of a cluster when it asked for them and was answered: those that
the answer has for the cluster, or none if it has nothing for it. -/
def Exchange.GivesEndpoints (x : Exchange) (cluster : String)
    (assignment : LoadAssignment) : Prop :=
  x.request.type = .loadAssignment ∧ x.request.names = [cluster] ∧
    ∃ assignments, x.outcome.resources .loadAssignment ResourceType.loadAssignment.decode? =
        .ok assignments ∧
      assignment =
        Dialogue.findOrEmpty LoadAssignment.cluster (fun n => ⟨n, []⟩) cluster assignments

end SidecarAgent.Discovery

namespace SidecarAgent.Endpoint

open Config (Snapshot Value)
open Discovery

/-! ## Listed subsets -/

/-- The clusters of a list that are subsets, with their names as they are read. -/
def listedSubsets (clusters : List Cluster) : List (String × ResourceName) :=
  clusters.filterMap fun cluster =>
    (subsetName? cluster.name).map fun name => (cluster.name, name)

/-- A subset is listed when its cluster is. -/
theorem mem_listedSubsets_iff {clusters : List Cluster} {key : String} {name : ResourceName} :
    (key, name) ∈ listedSubsets clusters ↔
      key ∈ clusters.map Cluster.name ∧ subsetName? key = some name := by
  unfold listedSubsets
  rw [List.mem_filterMap, List.mem_map]
  constructor
  · rintro ⟨cluster, hcluster, hname⟩
    rw [Option.map_eq_some_iff] at hname
    obtain ⟨other, hother, heq⟩ := hname
    rw [Prod.mk.injEq] at heq
    obtain ⟨rfl, rfl⟩ := heq
    exact ⟨⟨cluster, hcluster, rfl⟩, hother⟩
  · rintro ⟨⟨cluster, hcluster, rfl⟩, hname⟩
    refine ⟨cluster, hcluster, ?_⟩
    rw [hname]
    rfl

/-! ## Collecting -/

/-- What a pull makes of some listed subsets and of the look-ups for them: `Collects xs previous
subsets lookups s t` says that it comes from `s` to `t`, where the endpoints are those that the
exchanges `xs` give. -/
inductive Collects (xs : List Exchange) (previous : Snapshot) :
    List (String × ResourceName) → List (SubsetQuery × Option Tags) → Snapshot → Snapshot → Prop
  | nil (s : Snapshot) : Collects xs previous [] [] s s
  | kept {key : String} {name : ResourceName} {subsets : List (String × ResourceName)}
      {lookups : List (SubsetQuery × Option Tags)} {s t : Snapshot}
      (hrest : Collects xs previous subsets lookups (keep previous key s) t) :
      Collects xs previous ((key, name) :: subsets) ((tagQuery name, none) :: lookups) s t
  | found {key : String} {name : ResourceName} {subsets : List (String × ResourceName)}
      {lookups : List (SubsetQuery × Option Tags)} {s t : Snapshot} {tags : Tags}
      {assignment : LoadAssignment} (hgives : ∃ x ∈ xs, x.GivesEndpoints key assignment)
      (hrest : Collects xs previous subsets lookups
        (s.insert key (.endpointSubset (discoveredSubset key name tags assignment))) t) :
      Collects xs previous ((key, name) :: subsets) ((tagQuery name, some tags) :: lookups) s t

/-- Keeping a key gives it what it had before, if it had something, and changes no other. -/
theorem get?_keep (previous s : Snapshot) (key k : String) :
    (keep previous key s).get? k =
      if k = key then (previous.get? k).or (s.get? k) else s.get? k := by
  unfold keep
  by_cases hk : k = key
  · subst hk
    rw [if_pos rfl]
    cases previous.get? k with
    | none => rfl
    | some v => exact (KeyMap.get?_insert s k k v).trans (if_pos rfl)
  · rw [if_neg hk]
    cases previous.get? key with
    | none => rfl
    | some v => exact (KeyMap.get?_insert s key k v).trans (if_neg hk)

namespace Collects

variable {xs ys : List Exchange} {previous s t : Snapshot} {subsets : List (String × ResourceName)}
  {lookups : List (SubsetQuery × Option Tags)}

/-- With more exchanges the same is collected. -/
theorem mono (h : Collects xs previous subsets lookups s t) (hsub : xs ⊆ ys) :
    Collects ys previous subsets lookups s t := by
  induction h with
  | nil s => exact .nil s
  | kept _ ih => exact .kept ih
  | found hgives _ ih =>
    obtain ⟨x, hx, hgives⟩ := hgives
    exact .found ⟨x, hsub hx, hgives⟩ ih

/-- What comes after an exchange that gives the endpoints of a new subset is collected with it. -/
theorem asked {x : Exchange} {key : String} {name : ResourceName} {tags : Tags}
    {assignment : LoadAssignment} (hgives : x.GivesEndpoints key assignment)
    (hrest : Collects xs previous subsets lookups
      (s.insert key (.endpointSubset (discoveredSubset key name tags assignment))) t) :
    Collects (x :: xs) previous ((key, name) :: subsets) ((tagQuery name, some tags) :: lookups)
      s t :=
  .found ⟨x, List.mem_cons_self, hgives⟩ (hrest.mono (List.subset_cons_self x xs))

/-- There is one look-up for every listed subset, and it asks for its tags. -/
theorem queries_eq (h : Collects xs previous subsets lookups s t) :
    lookups.map Prod.fst = subsets.map fun c => tagQuery c.2 := by
  induction h with
  | nil s => rfl
  | kept _ ih => exact congrArg _ ih
  | found _ _ ih => exact congrArg _ ih

/-- A key is collected when it was there already, or when it is listed and a look-up for it found
something or the snapshot before has it. -/
theorem isSome_iff (h : Collects xs previous subsets lookups s t) (k : String) :
    (t.get? k).isSome ↔ (s.get? k).isSome ∨ ∃ name, (k, name) ∈ subsets ∧
      ((∃ tags, ((k, name), tagQuery name, some tags) ∈ subsets.zip lookups) ∨
        (previous.get? k).isSome) := by
  induction h with
  | nil s => simp
  | @kept key name subsets lookups s t _ ih =>
    rw [ih, get?_keep]
    have hlater : ∀ other, (∃ tags, ((k, other), tagQuery other, some tags) ∈
          ((key, name) :: subsets).zip ((tagQuery name, none) :: lookups)) ↔
        ∃ tags, ((k, other), tagQuery other, some tags) ∈ subsets.zip lookups := by
      intro other
      simp
    simp only [hlater, List.mem_cons, Prod.mk.injEq]
    by_cases hk : k = key
    · subst hk
      rw [if_pos rfl, Option.isSome_or, Bool.or_eq_true]
      constructor
      · rintro ((hprevious | hs) | ⟨other, hmem, hsource⟩)
        · exact .inr ⟨name, .inl ⟨rfl, rfl⟩, .inr hprevious⟩
        · exact .inl hs
        · exact .inr ⟨other, .inr hmem, hsource⟩
      · rintro (hs | ⟨other, ⟨-, rfl⟩ | hmem, hsource⟩)
        · exact .inl (.inr hs)
        · -- the cluster at the head found nothing itself, but it may be listed again
          rcases hsource with ⟨tags, htags⟩ | hprevious
          · exact .inr ⟨other, (List.of_mem_zip htags).1, .inl ⟨tags, htags⟩⟩
          · exact .inl (.inl hprevious)
        · exact .inr ⟨other, hmem, hsource⟩
    · simp [hk]
  | @found key name subsets lookups s t tags assignment _ _ ih =>
    rw [ih, KeyMap.get?_insert]
    by_cases hk : k = key
    · subst hk
      simp
    · simp [hk]

/-- A collected value was there already, or is what the snapshot before has, or is a new subset: one
with tags that a look-up for its cluster found, and endpoints that an exchange gave. -/
theorem value_cases (h : Collects xs previous subsets lookups s t) {k : String} {v : Value}
    (hv : t.get? k = some v) :
    s.get? k = some v ∨ previous.get? k = some v ∨
      ∃ name tags assignment, ((k, name), tagQuery name, some tags) ∈ subsets.zip lookups ∧
        (∃ x ∈ xs, x.GivesEndpoints k assignment) ∧
        v = .endpointSubset (discoveredSubset k name tags assignment) := by
  induction h with
  | nil s => exact .inl hv
  | @kept key name subsets lookups s t _ ih =>
    rcases ih hv with hs | hprevious | ⟨other, tags, assignment, hmem, hgives, heq⟩
    · rw [get?_keep] at hs
      split at hs
      · rcases Option.or_eq_some_iff.1 hs with hprevious | ⟨-, hs⟩
        · exact .inr (.inl hprevious)
        · exact .inl hs
      · exact .inl hs
    · exact .inr (.inl hprevious)
    · exact .inr (.inr ⟨other, tags, assignment, by simp [hmem], hgives, heq⟩)
  | @found key name subsets lookups s t tags assignment hgives _ ih =>
    rcases ih hv with hs | hprevious | ⟨other, more, given, hmem, hothers, heq⟩
    · rw [KeyMap.get?_insert] at hs
      split at hs
      · rename_i hk
        subst hk
        cases hs
        exact .inr (.inr ⟨name, tags, assignment, by simp, hgives, rfl⟩)
      · exact .inl hs
    · exact .inr (.inl hprevious)
    · exact .inr (.inr ⟨other, more, given, by simp [hmem], hothers, heq⟩)

end Collects

/-! ## Pulling -/

/-- A pull of some clusters that succeeds collects what the look-ups for them find.  The induction
is on the clusters: one that is no subset is passed over, and one whose endpoints cannot be asked
for leaves no result. -/
theorem collects_pullClusters (node : Node) (previous : Snapshot) (clusters : List Cluster)
    {s t : Snapshot} {answers : Answers} {cursors : Cursors}
    (h : ((pullClusters previous clusters s).answered node answers cursors).result = .ok t) :
    Collects ((pullClusters previous clusters s).exchanges node answers cursors) previous
      (listedSubsets clusters) ((pullClusters previous clusters s).lookups node answers cursors)
      s t := by
  induction clusters generalizing s answers cursors with
  | nil =>
    cases h
    exact .nil _
  | cons cluster rest ih =>
    cases hname : subsetName? cluster.name with
    | none =>
      have hlisted : listedSubsets (cluster :: rest) = listedSubsets rest := by
        simp [listedSubsets, hname]
      have hpull : pullClusters previous (cluster :: rest) s = pullClusters previous rest s := by
        simp [pullClusters, hname]
      rw [hlisted, hpull]
      rw [hpull] at h
      exact ih h
    | some name =>
      have hlisted :
          listedSubsets (cluster :: rest) = (cluster.name, name) :: listedSubsets rest := by
        simp [listedSubsets, hname]
      rw [hlisted]
      unfold pullClusters at h ⊢
      simp only [hname, Dialogue.tagsForSubset, Dialogue.bind] at h ⊢
      cases htags : answers.tags 0 (tagQuery name) with
      | none =>
        simp only [Dialogue.answered, Dialogue.lookups, Dialogue.exchanges, htags, Dialogue.bind,
          Session.after] at h ⊢
        exact .kept (ih h)
      | some tags =>
        simp only [Dialogue.answered, Dialogue.lookups, Dialogue.exchanges, htags, Dialogue.bind,
          Dialogue.andThen, Dialogue.listEndpoints, Dialogue.map, Dialogue.ask,
          Session.after] at h ⊢
        -- the endpoints are asked for next, and without an answer the whole pull fails
        cases hresources : (answers.afterLookup.outcome 0 (Request.make cursors node .loadAssignment
            [cluster.name])).resources .loadAssignment ResourceType.loadAssignment.decode? with
        | error e =>
          rw [hresources] at h
          cases h
        | ok assignments =>
          rw [hresources] at h
          exact .asked ⟨rfl, rfl, assignments, hresources, rfl⟩ (ih h)

namespace Pulling

variable (node : Node) (q : Pulling)

/-- The clusters that the control plane lists in a pull. -/
def listed : Except DiscoveryError (List Cluster) :=
  (Dialogue.listClusters.answered node q.answers q.cursors).result

/-- The look-ups of a pull. -/
def lookups : List (SubsetQuery × Option Tags) :=
  (pull q.previous).lookups node q.answers q.cursors

/-- The exchanges of a pull. -/
def exchanges : List Exchange := (pull q.previous).exchanges node q.answers q.cursors

/-- A pull finds tags for a listed cluster when the look-up that it makes for the cluster gives
them. -/
def FindsTags (key : String) (tags : Tags) : Prop :=
  ∃ clusters name, q.listed node = .ok clusters ∧
    ((key, name), tagQuery name, some tags) ∈ (listedSubsets clusters).zip (q.lookups node)

/-- A pull is given the endpoints of a cluster when one of its exchanges gives them. -/
def GivenEndpoints (key : String) (assignment : LoadAssignment) : Prop :=
  ∃ x ∈ q.exchanges node, x.GivesEndpoints key assignment

/-- A pull builds a value for a key when it is the subset with the tags that it finds and the
endpoints that it is given for the cluster of that name. -/
def Builds (key : String) (v : Value) : Prop :=
  ∃ name tags assignment, subsetName? key = some name ∧ q.FindsTags node key tags ∧
    q.GivenEndpoints node key assignment ∧
    v = .endpointSubset (discoveredSubset key name tags assignment)

variable {node q}

/-- A pull that succeeds collects what the look-ups for the listed clusters find. -/
theorem exists_collects {s : Snapshot} (h : q.result node = .ok s) :
    ∃ clusters, q.listed node = .ok clusters ∧ Collects (q.exchanges node) q.previous
      (listedSubsets clusters) (q.lookups node) ∅ s := by
  obtain ⟨previous, cursors, answers⟩ := q
  unfold result pulled pull at h
  unfold listed lookups exchanges pull
  simp only [Dialogue.listClusters, Dialogue.ask, Dialogue.andThen, Dialogue.bind,
    Dialogue.answered, Dialogue.lookups, Dialogue.exchanges, Session.after] at h ⊢
  cases hlisted : (answers.outcome 0 (Request.make cursors node .cluster [])).resources .cluster
      ResourceType.cluster.decode? with
  | error e =>
    rw [hlisted] at h
    cases h
  | ok clusters =>
    rw [hlisted] at h
    have hrest := collects_pullClusters node previous clusters h
    exact ⟨clusters, rfl, hrest.mono (List.subset_cons_self _ _)⟩

/-- The result of a pull has a key exactly where its cluster is listed and is a subset, and either a
look-up made for it finds tags or the snapshot before has it. -/
theorem isSome_result_iff {s : Snapshot} (h : q.result node = .ok s) {clusters : List Cluster}
    (hlisted : q.listed node = .ok clusters) (k : String) :
    (s.get? k).isSome ↔ k ∈ clusters.map Cluster.name ∧ (subsetName? k).isSome ∧
      ((∃ tags, q.FindsTags node k tags) ∨ (q.previous.get? k).isSome) := by
  obtain ⟨listed, hsame, hcollects⟩ := exists_collects h
  obtain rfl : clusters = listed := Except.ok.inj (hlisted.symm.trans hsame)
  have hkey := hcollects.isSome_iff k
  rw [hkey, KeyMap.get?_emptyCollection]
  constructor
  · rintro (hnone | ⟨name, hmem, hsource⟩)
    · cases hnone
    · obtain ⟨hcluster, hname⟩ := mem_listedSubsets_iff.1 hmem
      refine ⟨hcluster, by rw [hname]; rfl, hsource.imp_left ?_⟩
      rintro ⟨tags, htags⟩
      exact ⟨tags, clusters, name, hlisted, htags⟩
  · rintro ⟨hcluster, hsubset, hsource⟩
    obtain ⟨name, hname⟩ := Option.isSome_iff_exists.1 hsubset
    have hmem : (k, name) ∈ listedSubsets clusters := mem_listedSubsets_iff.2 ⟨hcluster, hname⟩
    refine .inr ⟨name, hmem, hsource.imp_left ?_⟩
    rintro ⟨tags, others, other, hothers, htags⟩
    obtain rfl : clusters = others := Except.ok.inj (hlisted.symm.trans hothers)
    have hother := (mem_listedSubsets_iff.1 (List.of_mem_zip htags).1).2
    cases hname.symm.trans hother
    exact ⟨tags, htags⟩

/-- A value in the result of a pull is what the snapshot before has, or is built in the pull. -/
theorem value_of_result {s : Snapshot} (h : q.result node = .ok s) {k : String} {v : Value}
    (hv : s.get? k = some v) : q.previous.get? k = some v ∨ q.Builds node k v := by
  obtain ⟨clusters, hlisted, hcollects⟩ := exists_collects h
  rcases hcollects.value_cases hv with
    hnone | hprevious | ⟨name, tags, assignment, hmem, hgives, heq⟩
  · cases hnone
  · exact .inl hprevious
  · have hname := (mem_listedSubsets_iff.1 (List.of_mem_zip hmem).1).2
    exact .inr ⟨name, tags, assignment, hname, ⟨clusters, name, hlisted, hmem⟩, hgives, heq⟩

/-- A key in the result of a pull is the name of a listed cluster. -/
theorem listed_of_result {s : Snapshot} (h : q.result node = .ok s) {k : String}
    (hk : (s.get? k).isSome) :
    (∃ clusters, q.listed node = .ok clusters ∧ k ∈ clusters.map Cluster.name) ∧
      (subsetName? k).isSome := by
  obtain ⟨clusters, hlisted, -⟩ := exists_collects h
  obtain ⟨hcluster, hsubset, -⟩ := (isSome_result_iff h hlisted k).1 hk
  exact ⟨⟨clusters, hlisted, hcluster⟩, hsubset⟩

end Pulling

end SidecarAgent.Endpoint
