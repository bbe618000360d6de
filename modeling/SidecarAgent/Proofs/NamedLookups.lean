import SidecarAgent.Proofs.CursorHistory

/-!
# Resources looked up by name

Whoever asks for one resource may be answered with any number of them, with others, or with several
of the name.  A look-up by name takes the first that carries exactly the name, and makes do with an
empty one where none does (`findOrEmpty_eq_iff`), so that nothing of another name is ever taken for
it.

The clusters that the routes for a cluster point at are read off such a resource: from the virtual
hosts of the cluster's service and port, and there from the routes that plainly name a cluster
(`namedClusters_filter_eq_iff`).
-/

namespace SidecarAgent.Discovery

/-! ## Finding by name -/

section Finding

variable {α : Type} {name : α → String} {empty : String → α} {wanted : String}
  {resources : List α} {a : α}

/-- What a name stands for among some resources: the first that carries it or, if none does, an
empty one. -/
inductive Found (name : α → String) (empty : String → α) (wanted : String) (resources : List α) :
    α → Prop
  | carried {before : List α} {a : α} {after : List α} (hsplit : resources = before ++ a :: after)
      (hbefore : ∀ b ∈ before, name b ≠ wanted) (hname : name a = wanted) :
      Found name empty wanted resources a
  | missing (hnone : ∀ b ∈ resources, name b ≠ wanted) :
      Found name empty wanted resources (empty wanted)

/-- Finding by name gives what the name stands for. -/
theorem findOrEmpty_eq_iff :
    Dialogue.findOrEmpty name empty wanted resources = a ↔ Found name empty wanted resources a := by
  have hcarried : ∀ {b}, resources.find? (fun r => name r = wanted) = some b ↔
      name b = wanted ∧ ∃ before after, resources = before ++ b :: after ∧
        ∀ c ∈ before, name c ≠ wanted := by
    simp [List.find?_eq_some_iff_append]
  have hmissing : resources.find? (fun r => name r = wanted) = none ↔
      ∀ b ∈ resources, name b ≠ wanted := by
    simp [List.find?_eq_none]
  unfold Dialogue.findOrEmpty
  constructor
  · rintro rfl
    cases hfind : resources.find? fun r => name r = wanted with
    | none => exact .missing (hmissing.1 hfind)
    | some b =>
      obtain ⟨hname, before, after, hsplit, hbefore⟩ := hcarried.1 hfind
      exact .carried hsplit hbefore hname
  · intro h
    cases h with
    | carried hsplit hbefore hname =>
      rw [hcarried.2 ⟨hname, _, _, hsplit, hbefore⟩, Option.getD_some]
    | missing hnone => rw [hmissing.2 hnone, Option.getD_none]

/-- What a name stands for carries the name. -/
theorem Found.name_eq (h : Found name empty wanted resources a)
    (hempty : name (empty wanted) = wanted) :
    name a = wanted := by
  cases h with
  | carried _ _ hname => exact hname
  | missing _ => exact hempty

end Finding

/-! ## Routes -/

/-- The clusters that routes plainly name are those of their targets, in order; a target of another
kind gives none. -/
inductive PlainlyName : List RouteTarget → List String → Prop
  | nil : PlainlyName [] []
  | plain {name : String} {routes : List RouteTarget} {clusters : List String}
      (hrest : PlainlyName routes clusters) :
      PlainlyName (.cluster name :: routes) (name :: clusters)
  | other {target : RouteTarget} {routes : List RouteTarget} {clusters : List String}
      (htarget : ∀ name, target ≠ .cluster name) (hrest : PlainlyName routes clusters) :
      PlainlyName (target :: routes) clusters

/-- The clusters that virtual hosts of a name lead to are those that the routes of each of them
plainly name, in order; a host of another name gives none. -/
inductive LeadTo (wanted : String) : List VirtualHost → List String → Prop
  | nil : LeadTo wanted [] []
  | wanted {host : VirtualHost} {hosts : List VirtualHost} {named clusters : List String}
      (hname : host.name = wanted) (hroutes : PlainlyName host.routes named)
      (hrest : LeadTo wanted hosts clusters) : LeadTo wanted (host :: hosts) (named ++ clusters)
  | other {host : VirtualHost} {hosts : List VirtualHost} {clusters : List String}
      (hname : host.name ≠ wanted) (hrest : LeadTo wanted hosts clusters) :
      LeadTo wanted (host :: hosts) clusters

/-- A target names no cluster exactly if it is of another kind. -/
theorem RouteTarget.cluster?_eq_none_iff {target : RouteTarget} :
    target.cluster? = none ↔ ∀ name, target ≠ .cluster name := by
  cases target <;> simp [cluster?]

/-- The targets of routes that plainly name clusters are those clusters. -/
theorem filterMap_cluster?_eq_iff {routes : List RouteTarget} {clusters : List String} :
    routes.filterMap RouteTarget.cluster? = clusters ↔ PlainlyName routes clusters := by
  constructor
  · rintro rfl
    induction routes with
    | nil => exact .nil
    | cons target rest ih =>
      cases htarget : target.cluster? with
      | none =>
        rw [List.filterMap_cons_none htarget]
        exact .other (RouteTarget.cluster?_eq_none_iff.1 htarget) ih
      | some name =>
        rw [List.filterMap_cons_some htarget]
        cases target <;> cases htarget
        exact .plain ih
  · intro h
    induction h with
    | nil => rfl
    | plain _ ih => exact congrArg (_ :: ·) ih
    | other htarget _ ih =>
      rw [List.filterMap_cons_none (RouteTarget.cluster?_eq_none_iff.2 htarget), ih]

/-- The clusters named by the virtual hosts of a name are those that they lead to. -/
theorem namedClusters_filter_eq_iff {wanted : String} {hosts : List VirtualHost}
    {clusters : List String} :
    namedClusters (hosts.filter fun v => v.name = wanted) = clusters ↔
      LeadTo wanted hosts clusters := by
  unfold namedClusters
  constructor
  · -- on the hosts: each is kept with all its routes, or left out
    rintro rfl
    induction hosts with
    | nil => exact .nil
    | cons host rest ih =>
      by_cases hname : host.name = wanted
      · rw [List.filter_cons_of_pos (by simpa using hname), List.flatMap_cons]
        exact .wanted hname (filterMap_cluster?_eq_iff.1 rfl) ih
      · rw [List.filter_cons_of_neg (by simpa using hname)]
        exact .other hname ih
  · intro h
    induction h with
    | nil => rfl
    | wanted hname hroutes _ ih =>
      rw [List.filter_cons_of_pos (by simpa using hname), List.flatMap_cons, ih,
        filterMap_cluster?_eq_iff.2 hroutes]
    | other hname _ ih => rw [List.filter_cons_of_neg (by simpa using hname), ih]

/-! ## Dialogues -/

namespace Dialogue

variable {α β : Type}

/-- Applying a function to the result of a dialogue changes the result of each of its sessions so.
-/
theorem result_map (f : α → β) (d : Dialogue α) (node : Node) (answers : Answers)
    (cursors : Cursors) :
    ((d.map f).answered node answers cursors).result =
      f (d.answered node answers cursors).result := by
  induction d generalizing answers cursors with
  | done a => rfl
  | note n next ih => exact ih answers cursors
  | lookup query next ih => exact ih _ _ cursors
  | discover t names next ih => exact ih _ _ _

/-- Applying a function to the result of a dialogue leaves its exchanges. -/
theorem exchanges_map (f : α → β) (d : Dialogue α) (node : Node) (answers : Answers)
    (cursors : Cursors) :
    (d.map f).exchanges node answers cursors = d.exchanges node answers cursors := by
  induction d generalizing answers cursors with
  | done a => rfl
  | note n next ih => exact ih answers cursors
  | lookup query next ih => exact ih _ _ cursors
  | discover t names next ih => exact congrArg _ (ih _ _ _)

/-- A dialogue looks a resource up by its name: it asks for the resource of that name alone, and
gives what the name stands for among the resources that it is answered with, which carries the name,
or the error of the request. -/
def LooksUp (t : ResourceType) (empty : String → t.Resource) (wanted : String)
    (d : Dialogue (Except DiscoveryError t.Resource)) : Prop :=
  ∀ (node : Node) (answers : Answers) (cursors : Cursors),
    let request := Request.make cursors node t [wanted]
    let outcome := answers.outcome 0 request
    let session := d.answered node answers cursors
    d.exchanges node answers cursors = [⟨request, outcome⟩] ∧
      (∀ e, session.result = .error e ↔ outcome.resources t t.decode? = .error e) ∧
      (∀ a, session.result = .ok a ↔ ∃ resources, outcome.resources t t.decode? = .ok resources ∧
        Found t.resourceName empty wanted resources a) ∧
      ∀ a, session.result = .ok a → t.resourceName a = wanted

/-- To ask for a name and to find it in the answer is to look it up. -/
theorem looksUp_of_find (t : ResourceType) {empty : String → t.Resource} {wanted : String}
    (hempty : t.resourceName (empty wanted) = wanted) :
    LooksUp t empty wanted
      ((ask t [wanted]).map fun r => r.map (findOrEmpty t.resourceName empty wanted)) := by
  intro node answers cursors request outcome session
  have hresult : session.result =
      (outcome.resources t t.decode?).map (findOrEmpty t.resourceName empty wanted) :=
    result_map _ _ _ _ _
  have hok : ∀ a, session.result = .ok a ↔
      ∃ resources, outcome.resources t t.decode? = .ok resources ∧
      Found t.resourceName empty wanted resources a := by
    intro a
    rw [hresult]
    cases outcome.resources t t.decode? with
    | error e => simp [Except.map]
    | ok resources => simp [Except.map, findOrEmpty_eq_iff]
  refine ⟨exchanges_map _ _ _ _ _, fun e => ?_, hok, fun a ha => ?_⟩
  · rw [hresult]
    cases outcome.resources t t.decode? <;> simp [Except.map]
  · obtain ⟨resources, -, hfound⟩ := (hok a).1 ha
    exact hfound.name_eq hempty

/-- The routes for a name that does not parse are asked of nobody. -/
theorem routeClusters_of_parse_none {cluster : String} (h : ResourceName.parse? cluster = none) :
    routeClusters cluster = done (.ok []) := by
  unfold routeClusters virtualHosts
  rw [h]
  rfl

/-- The routes for a name that parses are those of its route configuration. -/
theorem routeClusters_of_parse {cluster : String} {name : ResourceName}
    (h : ResourceName.parse? cluster = some name) :
    routeClusters cluster =
      (listRoutes cluster).map fun r => r.map fun routes =>
        namedClusters (hostsServing name routes) := by
  have hmap : ∀ r : Except DiscoveryError RouteConfiguration,
      (r.map (hostsServing name)).map namedClusters =
        r.map fun routes => namedClusters (hostsServing name routes) := by
    rintro (e | routes) <;> rfl
  unfold routeClusters virtualHosts
  rw [h]
  show discover _ _ _ = discover _ _ _
  congr 1
  funext r
  exact congrArg done (hmap _)

/-- Look-ups by name do not mix up resources.  The endpoints of a cluster and a route configuration
are each looked up by their names, whatever the control plane answers with.

The clusters that the routes for a cluster point at are none, and nothing is asked for, if the
cluster's name does not parse.  If it does, its route configuration is looked up and nothing else is
asked for; the clusters are those that the virtual hosts named after the service and port lead to,
or there is none for the error of the look-up. -/
theorem looked_up_by_name :
    (∀ cluster, LooksUp .loadAssignment (fun name => ⟨name, []⟩) cluster (listEndpoints cluster)) ∧
    (∀ name, LooksUp .routeConfiguration (fun name => ⟨name, []⟩) name (listRoutes name)) ∧
    ∀ cluster node answers cursors,
      let session := (routeClusters cluster).answered node answers cursors
      let exchanges := (routeClusters cluster).exchanges node answers cursors
      let routes := (listRoutes cluster).answered node answers cursors
      (ResourceName.parse? cluster = none →
        exchanges = [] ∧ session.cursors = cursors ∧ session.result = .ok []) ∧
      ∀ name, ResourceName.parse? cluster = some name →
        exchanges = (listRoutes cluster).exchanges node answers cursors ∧
        (∀ e, session.result = .error e ↔ routes.result = .error e) ∧
        ∀ clusters, session.result = .ok clusters ↔
          ∃ configuration, routes.result = .ok configuration ∧
          LeadTo (name.service ++ ":" ++ name.port) configuration.virtualHosts clusters := by
  refine ⟨fun cluster => looksUp_of_find .loadAssignment rfl,
    fun name => looksUp_of_find .routeConfiguration rfl, ?_⟩
  intro cluster node answers cursors session exchanges routes
  constructor
  · intro hparse
    simp only [session, exchanges, routeClusters_of_parse_none hparse]
    exact ⟨rfl, rfl, rfl⟩
  · intro name hparse
    have hresult : session.result =
        routes.result.map fun routes => namedClusters (hostsServing name routes) := by
      simp only [session, routeClusters_of_parse hparse, result_map]
      rfl
    refine ⟨?_, fun e => ?_, fun clusters => ?_⟩
    · simp only [exchanges, routeClusters_of_parse hparse, exchanges_map]
    · rw [hresult]
      cases routes.result <;> simp [Except.map]
    · rw [hresult]
      cases routes.result with
      | error e => simp [Except.map]
      | ok configuration => simp [Except.map, hostsServing, namedClusters_filter_eq_iff]

/-- Of two resources of the name the first is taken, and none of another name. -/
example : findOrEmpty LoadAssignment.cluster (fun name => ⟨name, []⟩) "a"
    [⟨"b", [[]]⟩, ⟨"a", [[.unset]]⟩, ⟨"a", [[]]⟩] = ⟨"a", [[.unset]]⟩ := by decide

end Dialogue

end SidecarAgent.Discovery
