import SidecarAgent.Kubernetes.DestinationRule
import SidecarAgent.Proofs.NameSpellings

/-!
# Which rule labels a subset

The labels of a subset are found in the first object that is a readable rule about the service and
has the subset.  Whatever else is listed is irrelevant, for one of four reasons, and is passed over
(`givenBy?_eq_some_iff`, `givenBy?_eq_none_iff`); so irrelevant objects may come and go anywhere in
the list without a difference (`findSome?_of_thinned`).
-/

namespace SidecarAgent.Kubernetes

open Discovery (SubsetQuery)
open Document (Data)
open Text (splitOn_eq_iff)

/-! ## Hosts -/

/-- The hosts that stand for a service of a namespace: its short name, the name with the namespace
behind a dot, and whatever continues that with another dot. -/
def IsHostOf (namespaceName service host : String) : Prop :=
  host = service ∨ host = service ++ "." ++ namespaceName ∨
    ∃ rest, host = service ++ "." ++ namespaceName ++ "." ++ rest

/-- Of a service without dots, a text is the short name if it is one label, which is the service. -/
theorem splitOn_eq_singleton_iff {host service : String} (hservice : '.' ∉ service.toList) :
    host.toList.splitOn '.' = [service.toList] ↔ host = service := by
  rw [splitOn_eq_iff, ← String.toList_inj]
  simp [hservice]

/-- A host matches when its labels are the service alone, or the service and the namespace first. -/
theorem hostMatches_iff_labels {host namespaceName service : String} :
    hostMatches host namespaceName service = true ↔
      host.toList.splitOn '.' = [service.toList] ∨
        ∃ rest, host.toList.splitOn '.' = service.toList :: namespaceName.toList :: rest := by
  unfold hostMatches
  split
  · rename_i label hlabels
    simp [hlabels]
  · rename_i first second rest hlabels
    simp [hlabels]
  · rename_i hlabels
    exact absurd hlabels (List.splitOn_ne_nil '.' _)

/-- Of a service and a namespace without dots, exactly their hosts match. -/
theorem hostMatches_iff {host namespaceName service : String} (hservice : '.' ∉ service.toList)
    (hspace : '.' ∉ namespaceName.toList) :
    hostMatches host namespaceName service = true ↔ IsHostOf namespaceName service host := by
  rw [hostMatches_iff_labels, splitOn_eq_singleton_iff hservice,
    Discovery.ResourceName.exists_splitOn_iff, and_iff_right ⟨hservice, hspace⟩]
  exact Iff.rfl

/-! ## Objects -/

/-- An object says a rule when the rule is read from its specification. -/
def Says (d : Data) (rule : DestinationRule) : Prop :=
  ∃ spec, d.get? "spec" = some spec ∧ DestinationRule.read? spec = some rule

/-- The first subset of a name. -/
def IsFirstNamed (name : String) (subsets : List LabelledSubset) (subset : LabelledSubset) : Prop :=
  ∃ before after, subsets = before ++ subset :: after ∧ (∀ earlier ∈ before, earlier.name ≠ name) ∧
    subset.name = name

/-- An object gives labels for a query when it says a rule about the service in question, and the
labels are those of the rule's first subset of the name in question. -/
inductive Gives (query : SubsetQuery) (d : Data) : Tags → Prop
  | subset {rule : DestinationRule} {subset : LabelledSubset} (hrule : Says d rule)
      (hhost : IsHostOf query.namespaceName query.service rule.host)
      (hfirst : IsFirstNamed query.subset rule.subsets subset) : Gives query d subset.labels

/-- An object is irrelevant to a query when it has no specification, or one that does not read as a
rule, or says a rule about another host or without the subset. -/
inductive Irrelevant (query : SubsetQuery) (d : Data) : Prop
  | unspecified (hspec : d.get? "spec" = none)
  | unreadable {spec : Data} (hspec : d.get? "spec" = some spec)
      (hread : DestinationRule.read? spec = none)
  | otherHost {rule : DestinationRule} (hrule : Says d rule)
      (hhost : ¬ IsHostOf query.namespaceName query.service rule.host)
  | otherSubsets {rule : DestinationRule} (hrule : Says d rule)
      (hsubsets : ∀ subset ∈ rule.subsets, subset.name ≠ query.subset)

/-- The labels that a rule gives. -/
def DestinationRule.labelsFor? (query : SubsetQuery) (rule : DestinationRule) : Option Tags :=
  if hostMatches rule.host query.namespaceName query.service then
    (rule.subsets.find? fun s => s.name = query.subset).map LabelledSubset.labels
  else none

/-- The labels that an object gives. -/
def givenBy? (query : SubsetQuery) (d : Data) : Option Tags :=
  ((d.get? "spec").bind DestinationRule.read?).bind (DestinationRule.labelsFor? query)

/-- The labels of a subset are the first that a rule gives. -/
theorem labelsOf_eq_findSome? (query : SubsetQuery) (rules : List DestinationRule) :
    labelsOf rules query = (rules.findSome? (DestinationRule.labelsFor? query)).getD ∅ := by
  unfold labelsOf
  dsimp only
  congr 1
  -- whether the hosts are sorted out first or with the subsets, rule by rule the same is found
  induction rules with
  | nil => rfl
  | cons rule rest ih =>
    rw [List.findSome?_cons, DestinationRule.labelsFor?, List.filter_cons]
    by_cases hhost : hostMatches rule.host query.namespaceName query.service
    · rw [if_pos hhost, if_pos hhost, List.findSome?_cons]
      cases rule.subsets.find? fun s => s.name = query.subset with
      | none => exact ih
      | some subset => rfl
    · rw [if_neg hhost, if_neg hhost]
      exact ih

/-- The labels of a subset are the first that an object gives. -/
theorem labelsOf_rulesAmong (query : SubsetQuery) (objects : List Data) :
    labelsOf (rulesAmong objects) query = (objects.findSome? (givenBy? query)).getD ∅ := by
  rw [labelsOf_eq_findSome?]
  congr 1
  unfold rulesAmong
  induction objects with
  | nil => rfl
  | cons d rest ih =>
    rw [List.findSome?_cons, givenBy?, List.filterMap_cons]
    cases (d.get? "spec").bind DestinationRule.read? with
    | none => exact ih
    | some rule =>
      show (rule :: _).findSome? _ = _
      rw [List.findSome?_cons, ih]
      rfl

variable {query : SubsetQuery} {d : Data} {labels : Tags}

/-- An object says at most one rule, the one that is read from it. -/
theorem says_iff {rule : DestinationRule} :
    Says d rule ↔ (d.get? "spec").bind DestinationRule.read? = some rule :=
  Option.bind_eq_some_iff.symm

/-- The first subset of a name is found. -/
theorem find?_eq_some_iff_isFirstNamed {name : String} {subsets : List LabelledSubset}
    {subset : LabelledSubset} :
    (subsets.find? fun s => s.name = name) = some subset ↔ IsFirstNamed name subsets subset := by
  simp only [List.find?_eq_some_iff_append, decide_eq_true_eq, Bool.not_eq_true',
    decide_eq_false_iff_not]
  constructor
  · rintro ⟨hname, before, after, hsplit, hbefore⟩
    exact ⟨before, after, hsplit, hbefore, hname⟩
  · rintro ⟨before, after, hsplit, hbefore, hname⟩
    exact ⟨hname, before, after, hsplit, hbefore⟩

section Dotless

variable (hservice : '.' ∉ query.service.toList) (hspace : '.' ∉ query.namespaceName.toList)

include hservice hspace

/-- What is found in an object is what it gives. -/
theorem givenBy?_eq_some_iff : givenBy? query d = some labels ↔ Gives query d labels := by
  unfold givenBy? DestinationRule.labelsFor?
  rw [Option.bind_eq_some_iff]
  constructor
  · rintro ⟨rule, hrule, hfound⟩
    split at hfound
    · rename_i hhost
      obtain ⟨subset, hsubset, rfl⟩ := Option.map_eq_some_iff.1 hfound
      exact .subset (says_iff.2 hrule) ((hostMatches_iff hservice hspace).1 hhost)
        (find?_eq_some_iff_isFirstNamed.1 hsubset)
    · cases hfound
  · rintro ⟨hrule, hhost, hfirst⟩
    refine ⟨_, says_iff.1 hrule, ?_⟩
    rw [if_pos ((hostMatches_iff hservice hspace).2 hhost), find?_eq_some_iff_isFirstNamed.2 hfirst]
    rfl

/-- Nothing is found in an object exactly if it is irrelevant. -/
theorem givenBy?_eq_none_iff : givenBy? query d = none ↔ Irrelevant query d := by
  unfold givenBy? DestinationRule.labelsFor?
  constructor
  · intro hnone
    cases hspec : d.get? "spec" with
    | none => exact .unspecified hspec
    | some spec =>
      cases hread : DestinationRule.read? spec with
      | none => exact .unreadable hspec hread
      | some rule =>
        rw [hspec, Option.bind_some, hread, Option.bind_some] at hnone
        by_cases hhost : hostMatches rule.host query.namespaceName query.service
        · rw [if_pos hhost, Option.map_eq_none_iff, List.find?_eq_none] at hnone
          exact .otherSubsets ⟨spec, hspec, hread⟩ (by simpa using hnone)
        · exact .otherHost ⟨spec, hspec, hread⟩ (mt (hostMatches_iff hservice hspace).2 hhost)
  · intro h
    -- each reason ends the look at another place
    cases h with
    | unspecified hspec => rw [hspec]; rfl
    | unreadable hspec hread => rw [hspec, Option.bind_some, hread]; rfl
    | otherHost hrule hhost =>
      rw [says_iff.1 hrule, Option.bind_some, if_neg (mt (hostMatches_iff hservice hspace).1 hhost)]
    | otherSubsets hrule hsubsets =>
      have hfind : (_ : DestinationRule).subsets.find? (fun s => s.name = query.subset) = none :=
        List.find?_eq_none.2 (by simpa using hsubsets)
      rw [says_iff.1 hrule, Option.bind_some, hfind, Option.map_none, ite_self]

end Dotless

/-! ## Lists of objects -/

/-- A list of objects is thinned when none but irrelevant ones are taken out of it, wherever they
stand. -/
inductive Thinned (query : SubsetQuery) : List Data → List Data → Prop
  | nil : Thinned query [] []
  | kept (d : Data) {objects left : List Data} (hrest : Thinned query objects left) :
      Thinned query (d :: objects) (d :: left)
  | taken {d : Data} {objects left : List Data} (hirrelevant : Irrelevant query d)
      (hrest : Thinned query objects left) : Thinned query (d :: objects) left

/-- Nothing is found in a list that was not found in it before it was thinned, and nothing else. -/
theorem findSome?_of_thinned (hservice : '.' ∉ query.service.toList)
    (hspace : '.' ∉ query.namespaceName.toList) {objects left : List Data}
    (h : Thinned query objects left) :
    objects.findSome? (givenBy? query) = left.findSome? (givenBy? query) := by
  induction h with
  | nil => rfl
  | kept d _ ih => rw [List.findSome?_cons, List.findSome?_cons, ih]
  | taken hirrelevant _ ih =>
    rw [List.findSome?_cons, (givenBy?_eq_none_iff hservice hspace).2 hirrelevant, ih]

/-- Of a service and a namespace without dots, the labels of a subset are those that the first
relevant object gives, and there are none if all objects are irrelevant.  So it makes no difference
to take irrelevant objects out of a list or to put some in. -/
theorem labels_of_first_relevant (query : SubsetQuery) (hservice : '.' ∉ query.service.toList)
    (hspace : '.' ∉ query.namespaceName.toList) :
    (∀ objects labels, labelsOf (rulesAmong objects) query = labels ↔
      (∃ before d after, objects = before ++ d :: after ∧ (∀ e ∈ before, Irrelevant query e) ∧
        Gives query d labels) ∨
      (∀ d ∈ objects, Irrelevant query d) ∧ labels = ∅) ∧
    ∀ objects left, Thinned query objects left →
      labelsOf (rulesAmong objects) query = labelsOf (rulesAmong left) query := by
  constructor
  · intro objects labels
    have hsome : objects.findSome? (givenBy? query) = some labels ↔
        ∃ before d after, objects = before ++ d :: after ∧ (∀ e ∈ before, Irrelevant query e) ∧
          Gives query d labels := by
      simp only [List.findSome?_eq_some_iff, givenBy?_eq_some_iff hservice hspace,
        givenBy?_eq_none_iff hservice hspace, and_comm]
    have hnone : objects.findSome? (givenBy? query) = none ↔ ∀ d ∈ objects, Irrelevant query d := by
      simp only [List.findSome?_eq_none_iff, givenBy?_eq_none_iff hservice hspace]
    rw [labelsOf_rulesAmong, ← hsome, ← hnone]
    cases objects.findSome? (givenBy? query) with
    | none => simp [eq_comm]
    | some found => simp
  · intro objects left h
    rw [labelsOf_rulesAmong, labelsOf_rulesAmong, findSome?_of_thinned hservice hspace h]

/-- A text in a document. -/
def written (text : String) : Data := .scalar { text := some text }

/-- An object that says a rule of one subset with one label. -/
def ruleObject (host subset key value : String) : Data :=
  .record [(written "spec", .record [(written "host", written host), (written "subsets", .list
    [.record [(written "name", written subset),
      (written "labels", .record [(written key, written value)])]])])]

/-- Behind a rule about a service with a longer name, one about another namespace, an object without
a specification and a rule without the subset, the labels are found, also if some of these are taken
out. -/
theorem labels_behind_irrelevant :
    let query : SubsetQuery := ⟨"default", "reviews", "v2"⟩
    let relevant := ruleObject "reviews.default.svc" "v2" "version" "2"
    let objects := [ruleObject "reviewsv2" "v2" "version" "3",
      ruleObject "reviews.other" "v2" "version" "4",
      .record [], ruleObject "reviews" "v1" "version" "1", relevant]
    ('.' ∉ query.service.toList ∧ '.' ∉ query.namespaceName.toList) ∧
      Thinned query objects [.record [], relevant] ∧
      labelsOf (rulesAmong objects) query = labelsOf (rulesAmong [.record [], relevant]) query ∧
      labelsOf (rulesAmong objects) query = KeyMap.ofList [("version", "2")] := by
  intro query relevant objects
  have hservice : '.' ∉ query.service.toList := by decide
  have hspace : '.' ∉ query.namespaceName.toList := by decide
  have hirrelevant : ∀ {d}, givenBy? query d = none → Irrelevant query d :=
    (givenBy?_eq_none_iff hservice hspace).1
  have hthinned : Thinned query objects [.record [], relevant] :=
    .taken (hirrelevant (by decide +kernel)) (.taken (hirrelevant (by decide +kernel))
      (.kept _ (.taken (hirrelevant (by decide +kernel)) (.kept _ .nil))))
  have hlabels := labels_of_first_relevant query hservice hspace
  exact ⟨⟨hservice, hspace⟩, hthinned, hlabels.2 objects _ hthinned, by decide +kernel⟩

end SidecarAgent.Kubernetes
