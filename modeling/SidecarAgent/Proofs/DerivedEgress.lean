import SidecarAgent.DataPlane
import SidecarAgent.Proofs.EgressLookup
import SidecarAgent.Proofs.RuleValidation
import SidecarAgent.Proofs.SoundSides

/-!
# Egress rules that the control plane stands for

All rules that are derived from listed clusters are published under one key, and a key is published
as a whole.  So every derived host is matched when all rules are valid, and otherwise none of them
gets anywhere near the cache (`Agent.Working.derived_hosts_matched`).  Where several clusters have
rules for a host, a look-up gives the first of them (`Agent.Working.derived_port_of_first`).
-/

namespace SidecarAgent.Egress

open Config (Snapshot)
open Discovery

/-! ## Derived rules -/

/-- A cluster stands for plain HTTP to a host on a port: it is a pass-through cluster, and its name
is an outbound one with that host and with a port that is a number. -/
def Derives (cluster : Cluster) (host : String) (port : ℤ) : Prop :=
  cluster.isPassThrough = true ∧ ∃ name, ResourceName.parse? cluster.name = some name ∧
    name.direction = .outbound ∧ name.fqdn = host ∧ Text.int32? name.port = some port

/-- The rule for plain HTTP to a host on a port. -/
def plainRule (host : String) (port : ℤ) : Rule := ⟨[host], [⟨port, derivedProtocol⟩]⟩

/-- A host and a port are acceptable when the host is a valid host name and the port is in range. -/
structure Acceptable (host : String) (port : ℤ) : Prop where
  host : validateHost host = .ok ()
  inRange : 1 ≤ port ∧ port ≤ 65535

/-- A cluster has a rule when it stands for a host and a port, and it is the rule for these. -/
theorem derivedRule?_eq_some_iff {cluster : Cluster} {rule : Rule} :
    derivedRule? cluster = some rule ↔
      ∃ host port, Derives cluster host port ∧ rule = plainRule host port := by
  unfold derivedRule? Derives
  by_cases hthrough : cluster.isPassThrough = true
  · rw [if_pos hthrough]
    cases hname : ResourceName.parse? cluster.name with
    | none => simp
    | some name =>
      by_cases houtbound : name.direction = .outbound
      · simp only [houtbound, if_true, Option.map_eq_some_iff]
        constructor
        · rintro ⟨port, hport, rfl⟩
          exact ⟨name.fqdn, port, ⟨hthrough, name, rfl, houtbound, rfl, hport⟩, rfl⟩
        · rintro ⟨host, port, ⟨-, other, heq, -, rfl, hport⟩, rfl⟩
          cases heq
          exact ⟨port, hport, rfl⟩
      · simp only [houtbound, if_false]
        constructor
        · intro h
          cases h
        · rintro ⟨host, port, ⟨-, other, heq, hother, -⟩, -⟩
          cases heq
          exact absurd hother houtbound
  · rw [if_neg hthrough]
    constructor
    · intro h
      cases h
    · rintro ⟨host, port, ⟨hother, -⟩, -⟩
      exact absurd hother hthrough

/-- A cluster stands for one host and one port at most. -/
theorem Derives.rule_eq {cluster : Cluster} {host : String} {port : ℤ}
    (h : Derives cluster host port) :
    derivedRule? cluster = some (plainRule host port) :=
  derivedRule?_eq_some_iff.2 ⟨host, port, h, rfl⟩

/-- The rule for a host and a port is valid when these are acceptable. -/
theorem valid_plainRule_iff {host : String} {port : ℤ} :
    (plainRule host port).Valid ↔ Acceptable host port := by
  constructor
  · intro h
    exact ⟨h.hosts host (by simp [plainRule]),
      (h.ports ⟨port, derivedProtocol⟩ (by simp [plainRule])).1⟩
  · intro h
    have hknown : (Protocol.ofText? derivedProtocol).isSome = true := by decide
    refine ⟨by simp [plainRule], by simp [plainRule], fun other hother => ?_,
      fun other hother => ?_⟩
    · rw [List.mem_singleton.1 hother]
      exact h.host
    · rw [List.mem_singleton.1 hother]
      exact ⟨h.inRange, hknown⟩

/-- The derived rules are accepted when all that clusters stand for is acceptable. -/
theorem exists_validate_derivedRules_iff {clusters : List Cluster} :
    (∃ valid, validate (derivedRules clusters) = .ok valid) ↔
      ∀ c ∈ clusters, ∀ host port, Derives c host port → Acceptable host port := by
  rw [exists_validate_iff]
  unfold derivedRules
  constructor
  · intro h c hc host port hderives
    exact valid_plainRule_iff.1 (h _ (List.mem_filterMap.2 ⟨c, hc, hderives.rule_eq⟩))
  · intro h rule hrule
    obtain ⟨c, hc, hderived⟩ := List.mem_filterMap.1 hrule
    obtain ⟨host, port, hderives, rfl⟩ := derivedRule?_eq_some_iff.1 hderived
    exact valid_plainRule_iff.2 (h c hc host port hderives)

/-- What clusters stand for is acceptable when the rules derived from them pass validation. -/
theorem acceptable_of_validateFrom (clusters : List Cluster)
    (h : validateFrom 0 (derivedRules clusters) = .ok ()) :
    ∀ c ∈ clusters, ∀ host port, Derives c host port → Acceptable host port :=
  exists_validate_derivedRules_iff.1 ⟨⟨derivedRules clusters, h⟩, validate_eq_ok_iff.2 rfl⟩

/-- A pull of egress rules derives them from the clusters that are listed. -/
theorem result_pull (node : Node) (answers : Answers) (cursors : Cursors) :
    (pull.answered node answers cursors).result =
      ((Dialogue.listClusters.answered node answers cursors).result).map derivedSnapshot := rfl

/-- The snapshot of derived rules has all of them under their key, and nothing else. -/
theorem get?_derivedSnapshot (clusters : List Cluster) (k : String) :
    (derivedSnapshot clusters).get? k =
      if k = derivedKey then some (.egressRules (derivedRules clusters)) else none := by
  unfold derivedSnapshot
  rw [KeyMap.get?_insert, KeyMap.get?_emptyCollection]

/-- The rules of a cache with just one key are those under the key. -/
theorem Cache.rules_of_single {cache : Cache} {key : String} {valid : ValidRules}
    (hkey : cache.get? key = some valid) (hother : ∀ k, k ≠ key → cache.get? k = none) :
    cache.rules = valid.rules := by
  have hcache : cache = (∅ : Cache).insert key valid := by
    ext1 k
    rw [KeyMap.get?_insert, KeyMap.get?_emptyCollection]
    by_cases hk : k = key
    · rw [if_pos hk, hk, hkey]
    · rw [if_neg hk, hother k hk]
  have hvalues : ((∅ : Cache).insert key valid).values = [valid] := rfl
  unfold Cache.rules
  rw [hcache, hvalues, List.flatMap_singleton]

/-! ## Look-ups of derived hosts -/

/-- The first cluster of a list that stands for a host with some property, and the port that it
stands for. -/
def FirstDerived (clusters : List Cluster) (property : String → Prop) (host : String) (port : ℤ) :
    Prop :=
  ∃ before first after, clusters = before ++ first :: after ∧ Derives first host port ∧
    property host ∧ ∀ c ∈ before, ∀ other n, Derives c other n → ¬ property other

/-- The first cluster whose host has a property is the first for every property that says the same.
-/
theorem FirstDerived.congr {clusters : List Cluster} {property other : String → Prop}
    {host : String}
    {port : ℤ} (h : FirstDerived clusters property host port)
    (hsame : ∀ pattern, property pattern ↔ other pattern) :
    FirstDerived clusters other host port := by
  obtain ⟨before, first, after, hsplit, hderives, hhost, hbefore⟩ := h
  refine ⟨before, first, after, hsplit, hderives, (hsame host).1 hhost, ?_⟩
  intro c hc pattern n hpattern hother
  exact hbefore c hc pattern n hpattern ((hsame pattern).2 hother)

/-- Where the cached rules are those derived from some clusters, a test of patterns finds the rule
of the first cluster whose host passes it, or nothing if none does. -/
theorem findRule?_cases {cache : Cache} {clusters : List Cluster}
    (hrules : cache.rules = derivedRules clusters) (test : List Char → Bool) :
    (∃ host port, FirstDerived clusters (fun h => test h.toList = true) host port ∧
      cache.findRule? test = some (plainRule host port)) ∨
    ((∀ c ∈ clusters, ∀ host port, Derives c host port → ¬ test host.toList = true) ∧
      cache.findRule? test = none) := by
  have hpasses : ∀ c host port, Derives c host port →
      ((derivedRule? c).any fun rule => rule.hosts.any fun pattern => test pattern.toList) =
        test host.toList := by
    -- a derived rule has one host only
    intro c host port hderives
    rw [hderives.rule_eq]
    simp [plainRule]
  unfold Cache.findRule?
  rw [hrules]
  unfold derivedRules
  rw [List.find?_filterMap]
  cases hfound : clusters.find? fun c =>
      (derivedRule? c).any fun rule => rule.hosts.any fun pattern => test pattern.toList with
  | none =>
    refine .inr ⟨fun c hc host port hderives => ?_, rfl⟩
    have hfails := List.find?_eq_none.1 hfound c hc
    rwa [hpasses c host port hderives] at hfails
  | some first =>
    obtain ⟨hfirst, before, after, hsplit, hbefore⟩ := List.find?_eq_some_iff_append.1 hfound
    cases hrule : derivedRule? first with
    | none =>
      rw [hrule] at hfirst
      cases hfirst
    | some rule =>
      obtain ⟨host, port, hderives, rfl⟩ := derivedRule?_eq_some_iff.1 hrule
      rw [hpasses first host port hderives] at hfirst
      refine .inl ⟨host, port, ⟨before, first, after, hsplit, hderives, hfirst, ?_⟩, hrule⟩
      intro c hc other n hother htest
      have hfails := hbefore c hc
      rw [hpasses c other n hother, htest] at hfails
      cases hfails

/-- A host that begins with a star covers itself. -/
theorem coversHost_self {host : String} (h : Starred host) :
    coversHost host.toList host.toList = true := by
  obtain ⟨ending, hending⟩ := List.head?_eq_some_iff.1 h
  rw [hending]
  show ending.isSuffixOf ('*' :: ending) = true
  exact List.isSuffixOf_iff_suffix.2 (List.suffix_cons '*' ending)

/-- A pattern reaches a host that clusters stand for when it is the host or, if the host begins with
a star itself, when it covers the host. -/
def Reaches (host pattern : String) : Prop :=
  (¬ Starred host ∧ pattern = host) ∨
    (Starred host ∧ coversHost host.toList pattern.toList = true)

/-- A host with a star is reached by what covers it. -/
theorem reaches_iff_of_starred {host : String} (h : Starred host) (pattern : String) :
    Reaches host pattern ↔ coversHost host.toList pattern.toList = true := by
  unfold Reaches
  tauto

/-- A host without a star is reached by what names it. -/
theorem reaches_iff_of_not_starred {host : String} (h : ¬ Starred host) (pattern : String) :
    Reaches host pattern ↔ namesHost host.toList pattern.toList = true := by
  rw [namesHost_iff]
  unfold Reaches
  constructor
  · rintro (⟨hnostar, rfl⟩ | ⟨hstar, -⟩)
    · exact ⟨rfl, hnostar⟩
    · exact absurd hstar h
  · rintro ⟨rfl, hnostar⟩
    exact .inl ⟨hnostar, rfl⟩

/-- Where the cached rules are those derived from some clusters, the rule for a host that one of
them stands for is that of the first cluster that reaches the host. -/
theorem match?_of_derives {cache : Cache} {clusters : List Cluster}
    (hrules : cache.rules = derivedRules clusters) {cluster : Cluster} (hmem : cluster ∈ clusters)
    {host : String} {port : ℤ} (hderives : Derives cluster host port) :
    ∃ pattern number, FirstDerived clusters (Reaches host) pattern number ∧
      cache.match? host = some (plainRule pattern number) := by
  unfold Cache.match?
  by_cases hstar : Starred host
  · -- no pattern names a host with a star, which covers itself
    have hnone : cache.findRule? (namesHost host.toList) = none := by
      rcases findRule?_cases hrules (namesHost host.toList) with
        ⟨pattern, number, ⟨-, -, -, -, -, hnames, -⟩, -⟩ | ⟨-, hnone⟩
      · obtain ⟨rfl, hnostar⟩ := namesHost_iff.1 hnames
        exact absurd hstar hnostar
      · exact hnone
    rcases findRule?_cases hrules (coversHost host.toList) with
      ⟨pattern, number, hfirst, hfound⟩ | ⟨hnothing, -⟩
    · refine ⟨pattern, number, ?_, by rw [hnone, Option.none_or, hfound]⟩
      exact hfirst.congr fun other => (reaches_iff_of_starred hstar other).symm
    · exact absurd (coversHost_self hstar) (hnothing cluster hmem host port hderives)
  · rcases findRule?_cases hrules (namesHost host.toList) with
      ⟨pattern, number, hfirst, hfound⟩ | ⟨hnothing, -⟩
    · refine ⟨pattern, number, ?_, by rw [hfound, Option.some_or]⟩
      exact hfirst.congr fun other => (reaches_iff_of_not_starred hstar other).symm
    · exact absurd (namesHost_iff.2 ⟨rfl, hstar⟩) (hnothing cluster hmem host port hderives)

end SidecarAgent.Egress

namespace SidecarAgent.Agent

open Config
open Discovery
open Egress (Acceptable Derives FirstDerived Reaches derivedKey derivedRules derivedSnapshot
  plainRule)
open Endpoint (Driver lastOk lastOk_append_of_error lastOk_concat_ok)

namespace Working

/-! ## Publication -/

/-- What an agent at work has cached of egress rules. -/
def egressCache (a : Working) : Egress.Cache := (a.branch .egress).cache

/-- The clusters that are listed in a cycle that begins with some answers. -/
def listed (a : Working) (answers : Answers) : Except DiscoveryError (List Cluster) :=
  (Dialogue.listClusters.answered a.node answers a.cursors).result

/-- A pull of the egress side derives its result from what is listed. -/
theorem result_session_egress (a : Working) (answers : Answers) :
    (a.session .egress answers).result = (a.listed answers).map derivedSnapshot :=
  Egress.result_pull a.node answers a.cursors

/-- The listing that is part of what happens, if it is a cycle of the egress side. -/
def listing? (a : Working) : Happening → Option (Except DiscoveryError (List Cluster))
  | .cycle .egress _ answers => some (a.listed answers)
  | .cycle .endpoints _ _ | .listen _ _ | .exchange _ => none

/-- The listings of the egress side in the course of some happenings. -/
def listings : Working → List Happening → List (Except DiscoveryError (List Cluster))
  | _, [] => []
  | a, h :: rest => (a.listing? h).toList ++ (a.after h).listings rest

/-- The egress source has the rules derived from what was listed last in some listings, and nothing
if nothing has been listed. -/
def HasDerived (a : Working) (listings : List (Except DiscoveryError (List Cluster))) : Prop :=
  (a.branch .egress).source.current = ((lastOk listings).map derivedSnapshot).getD ∅

/-- An agent begins to work with what its first listing derives. -/
theorem hasDerived_begin (node : Node) (egress endpoints : Answers) :
    (begin node egress endpoints).HasDerived
      [(Dialogue.listClusters.answered node egress Cursors.start).result] := by
  show (Side.egress.source.replace
    (Egress.pull.answered node egress Cursors.start).result).1.current = _
  rw [Egress.result_pull]
  cases (Dialogue.listClusters.answered node egress Cursors.start).result with
  | error e => rfl
  | ok clusters => rfl

/-- Whatever happens, the egress source has what the last listing derives. -/
theorem HasDerived.after {a : Working} {ls : List (Except DiscoveryError (List Cluster))}
    (h : a.HasDerived ls) (happening : Happening) :
    (a.after happening).HasDerived (ls ++ (a.listing? happening).toList) := by
  have hsame : ∀ b : Working, (b.branch .egress).source = (a.branch .egress).source →
      b.HasDerived (ls ++ []) := by
    intro b hsource
    unfold HasDerived
    rw [hsource, List.append_nil]
    exact h
  cases happening with
  | cycle side driver answers =>
    cases side with
    | egress =>
      show ((a.branch .egress).source.refresh (a.session .egress answers).result).1.current =
        ((lastOk (ls ++ [a.listed answers])).map derivedSnapshot).getD ∅
      rw [a.result_session_egress]
      cases a.listed answers with
      | error e =>
        rw [lastOk_append_of_error ls (by simp)]
        exact h
      | ok clusters =>
        rw [lastOk_concat_ok]
        rfl
    | endpoints => exact hsame _ rfl
  | listen side pattern =>
    cases side with
    | egress => exact hsame _ rfl
    | endpoints => exact hsame _ rfl
  | exchange x => exact hsame _ rfl

/-- Whatever happens one after another, the egress source has what the last listing derives. -/
theorem HasDerived.run {a : Working} {ls : List (Except DiscoveryError (List Cluster))}
    (h : a.HasDerived ls) (happenings : List Happening) :
    (a.run happenings).HasDerived (ls ++ a.listings happenings) := by
  induction happenings generalizing a ls with
  | nil =>
    show a.HasDerived (ls ++ [])
    rwa [List.append_nil]
  | cons happening rest ih =>
    have hrest := ih (h.after happening)
    rwa [List.append_assoc] at hrest

variable {a : Working} {ls : List (Except DiscoveryError (List Cluster))} {clusters : List Cluster}

/-- Under other keys than that of the derived rules there is nothing. -/
theorem HasDerived.get?_current_of_ne (h : a.HasDerived ls) {k : String} (hk : k ≠ derivedKey) :
    (a.branch .egress).source.current.get? k = none := by
  rw [h]
  cases lastOk ls with
  | none => rfl
  | some clusters => exact (Egress.get?_derivedSnapshot clusters k).trans (if_neg hk)

/-- The egress cache of an agent with sound sides is settled on what the egress source has. -/
theorem settled_egressCache (hsound : ∀ side, (a.branch side).Sound) (k : String) :
    Egress.enter (a.egressCache.get? k) ((a.branch .egress).source.current.get? k) =
      a.egressCache.get? k :=
  (hsound .egress).settled k

/-- Nothing is cached under other keys than that of the derived rules. -/
theorem HasDerived.get?_egressCache_of_ne (h : a.HasDerived ls)
    (hsound : ∀ side, (a.branch side).Sound) {k : String} (hk : k ≠ derivedKey) :
    a.egressCache.get? k = none := by
  have hsettled := settled_egressCache hsound k
  rw [h.get?_current_of_ne hk] at hsettled
  exact hsettled.symm

/-- When all that was listed last is acceptable, the rules that are cached are those derived from
it. -/
theorem HasDerived.rules_egressCache (h : a.HasDerived ls) (hsound : ∀ side, (a.branch side).Sound)
    (hlast : lastOk ls = some clusters)
    (hacceptable : ∀ c ∈ clusters, ∀ host port, Derives c host port → Acceptable host port) :
    a.egressCache.rules = derivedRules clusters := by
  obtain ⟨valid, hvalid⟩ := Egress.exists_validate_derivedRules_iff.2 hacceptable
  have hcurrent : (a.branch .egress).source.current.get? derivedKey =
      some (.egressRules (derivedRules clusters)) := by
    rw [h, hlast]
    exact (Egress.get?_derivedSnapshot clusters derivedKey).trans (if_pos rfl)
  have hrules : Egress.validRules? (.egressRules (derivedRules clusters)) = some valid :=
    Egress.validRules?_eq_some_iff.2 ⟨_, rfl, hvalid⟩
  have hcached : a.egressCache.get? derivedKey = some valid := by
    -- the cache has entered what the source has, and what is accepted replaces any entry
    rw [← settled_egressCache hsound derivedKey, hcurrent]
    show (Egress.validRules? _).or _ = some valid
    rw [hrules, Option.some_or]
  rw [Egress.Cache.rules_of_single hcached fun k hk => h.get?_egressCache_of_ne hsound hk]
  exact Egress.validate_eq_ok_iff.1 hvalid

/-- After a cycle that lists some clusters, every key of the egress cache has entered what the
snapshot of their derived rules has there. -/
theorem get?_egressCache_cycle (hsound : ∀ side, (a.branch side).Sound) {answers : Answers}
    (hlisted : a.listed answers = .ok clusters) (driver : Driver) (k : String) :
    (a.cycle .egress driver answers).egressCache.get? k =
      Egress.enter (a.egressCache.get? k) ((derivedSnapshot clusters).get? k) := by
  have hresult : (a.session .egress answers).result = .ok (derivedSnapshot clusters) := by
    rw [a.result_session_egress, hlisted]
    rfl
  have hbranch : (a.cycle .egress driver answers).branch .egress =
      (a.branch .egress).refresh driver (.ok (derivedSnapshot clusters)) := by
    unfold cycle
    dsimp only
    rw [Function.update_self, hresult]
  unfold egressCache
  rw [hbranch]
  exact ((hsound .egress).refresh_ok driver (derivedSnapshot clusters)).2.2 k

/-- A cycle that lists a cluster which stands for something that is not acceptable leaves the egress
cache as it is. -/
theorem HasDerived.egressCache_cycle_of_not_acceptable (h : a.HasDerived ls)
    (hsound : ∀ side, (a.branch side).Sound) {answers : Answers}
    (hlisted : a.listed answers = .ok clusters) (driver : Driver)
    (hfault : ∃ c ∈ clusters, ∃ host port, Derives c host port ∧ ¬ Acceptable host port) :
    (a.cycle .egress driver answers).egressCache = a.egressCache := by
  have hrules : Egress.validRules? (.egressRules (derivedRules clusters)) = none := by
    rw [Option.eq_none_iff_forall_ne_some]
    intro valid hvalid
    obtain ⟨rules, heq, hvalidate⟩ := Egress.validRules?_eq_some_iff.1 hvalid
    cases heq
    obtain ⟨c, hc, host, port, hderives, hnot⟩ := hfault
    exact hnot
      (Egress.exists_validate_derivedRules_iff.1 ⟨valid, hvalidate⟩ c hc host port hderives)
  ext1 k
  rw [get?_egressCache_cycle hsound hlisted, Egress.get?_derivedSnapshot]
  by_cases hk : k = derivedKey
  · rw [if_pos hk]
    show (Egress.validRules? _).or _ = _
    rw [hrules, Option.none_or]
  · rw [if_neg hk, h.get?_egressCache_of_ne hsound hk]
    rfl

/-! ## Every derived host or none -/

/-- A pass-through cluster, as the control plane sends it. -/
def passThrough (name : String) : PackedResource :=
  Simulation.ControlPlane.pack .cluster ⟨name, .numbered passThroughCode⟩

/-- Answers in which there are pass-through clusters of some names. -/
def listing (names : List String) : Answers where
  outcome _ _ := .answered ⟨"1", "a", "", names.map passThrough⟩
  tags _ _ := none

/-- An agent for which nothing has been listed yet. -/
def idle : Working := begin ⟨"pod", "shop", "10.0.0.1"⟩ (listing []) (listing [])

/-- When everything is acceptable that the clusters listed last stand for, all of the hosts that
they stand for are matched, whatever other clusters are among them, and as long as nothing is listed
successfully again.  A cycle that lists a cluster which stands for anything else changes nothing. -/
theorem derived_hosts_matched (node : Node) (egress endpoints : Answers)
    (happenings : List Happening) :
    let first := begin node egress endpoints
    let a := first.run happenings
    let ls := (Dialogue.listClusters.answered node egress Cursors.start).result ::
      first.listings happenings
    (∀ clusters, lastOk ls = some clusters →
      (∀ c ∈ clusters, ∀ host port, Derives c host port → Acceptable host port) →
      ∀ c ∈ clusters, ∀ host port, Derives c host port → ∃ pattern number, Reaches host pattern ∧
        (DataPlane.matchEgress a.egressCache host).result = some (plainRule pattern number)) ∧
    ∀ driver answers clusters, a.listed answers = .ok clusters →
      (∃ c ∈ clusters, ∃ host port, Derives c host port ∧ ¬ Acceptable host port) →
      (a.cycle .egress driver answers).egressCache = a.egressCache := by
  intro first a ls
  have hsound : ∀ side, (a.branch side).Sound :=
    sound_run (sound_begin node egress endpoints) happenings
  have hderived : a.HasDerived ls := (hasDerived_begin node egress endpoints).run happenings
  refine ⟨fun clusters hlast hacceptable c hc host port hderives => ?_,
    fun driver answers clusters hlisted hfault => ?_⟩
  · have hrules : a.egressCache.rules = derivedRules clusters :=
      hderived.rules_egressCache hsound hlast hacceptable
    obtain ⟨pattern, number, ⟨-, -, -, -, -, hreaches, -⟩, hmatch⟩ :=
      Egress.match?_of_derives hrules hc hderives
    refine ⟨pattern, number, hreaches, ?_⟩
    unfold DataPlane.matchEgress
    rw [hmatch]
  · exact hderived.egressCache_cycle_of_not_acceptable hsound hlisted driver hfault

/-- A pass-through cluster that stands for port 80 of a host. -/
def plainCluster : Cluster := ⟨"outbound|80||b.com", .numbered passThroughCode⟩

/-- It stands for that. -/
theorem derives_plainCluster : Derives plainCluster "b.com" 80 :=
  ⟨by decide, ⟨.outbound, "80", "", "b", "com", "b.com"⟩, by decide +kernel, rfl, rfl,
    by decide +kernel⟩

/-- A cluster without a numeric port does not keep the host of another cluster from being matched.
-/
theorem host_matched_beside_others :
    let answers := listing ["outbound|http||a.com", "outbound|80||b.com"]
    ∃ pattern number, Reaches "b.com" pattern ∧
      (DataPlane.matchEgress
        (idle.run [.cycle .egress .manager answers]).egressCache "b.com").result =
        some (plainRule pattern number) := by
  intro answers
  have hlast : lastOk
      [(Dialogue.listClusters.answered
          ⟨"pod", "shop", "10.0.0.1"⟩ (listing []) Cursors.start).result,
        idle.listed answers] =
      some [⟨"outbound|http||a.com", .numbered passThroughCode⟩, plainCluster] := by decide +kernel
  have hacceptable := Egress.acceptable_of_validateFrom
    [⟨"outbound|http||a.com", .numbered passThroughCode⟩, plainCluster] (by decide +kernel)
  exact (derived_hosts_matched ⟨"pod", "shop", "10.0.0.1"⟩ (listing []) (listing [])
    [.cycle .egress .manager answers]).1 _ hlast hacceptable _ (by simp) "b.com" 80
      derives_plainCluster

/-- A cluster with a port that is out of range keeps the host of another cluster from being matched.
-/
theorem host_blocked_by_port :
    let answers := listing ["outbound|70000||a.com", "outbound|80||b.com"]
    idle.listed answers = .ok [⟨"outbound|70000||a.com", .numbered passThroughCode⟩, plainCluster] ∧
      Derives plainCluster "b.com" 80 ∧ Acceptable "b.com" 80 ∧
      (DataPlane.matchEgress (idle.cycle .egress .manager answers).egressCache "b.com").result =
        none :=
  ⟨by decide +kernel, derives_plainCluster, ⟨by decide +kernel, by decide⟩, by decide +kernel⟩

/-! ## Ports of one host -/

/-- When everything is acceptable that the clusters listed last stand for, the rule that a look-up
gives for one of their hosts is that of the first of them that reaches the host: the first with the
host itself or, if the host begins with a star, the first that covers it.  So the port of a cluster
is open for its host exactly when that first cluster has the same port. -/
theorem derived_port_of_first (node : Node) (egress endpoints : Answers)
    (happenings : List Happening) (clusters : List Cluster) :
    let first := begin node egress endpoints
    let a := first.run happenings
    lastOk ((Dialogue.listClusters.answered node egress Cursors.start).result ::
      first.listings happenings) = some clusters →
    (∀ c ∈ clusters, ∀ host port, Derives c host port → Acceptable host port) →
    ∀ c ∈ clusters, ∀ host port, Derives c host port →
      ∃ pattern number, FirstDerived clusters (Reaches host) pattern number ∧
        (DataPlane.matchEgress a.egressCache host).result = some (plainRule pattern number) ∧
        ((∃ rule, (DataPlane.matchEgress a.egressCache host).result = some rule ∧
          ⟨port, "http"⟩ ∈ rule.ports) ↔ number = port) := by
  intro first a hlast hacceptable c hc host port hderives
  have hsound : ∀ side, (a.branch side).Sound :=
    sound_run (sound_begin node egress endpoints) happenings
  have hderived := (hasDerived_begin node egress endpoints).run happenings
  have hrules : a.egressCache.rules = derivedRules clusters :=
    hderived.rules_egressCache hsound hlast hacceptable
  obtain ⟨pattern, number, hfirst, hmatch⟩ := Egress.match?_of_derives hrules hc hderives
  have hresult : (DataPlane.matchEgress a.egressCache host).result =
      some (plainRule pattern number) := by
    unfold DataPlane.matchEgress
    rw [hmatch]
  refine ⟨pattern, number, hfirst, hresult, ?_⟩
  rw [hresult]
  constructor
  · rintro ⟨rule, heq, hport⟩
    cases heq
    exact (congrArg Egress.Port.number (List.mem_singleton.1 hport)).symm
  · rintro rfl
    exact ⟨plainRule pattern number, rfl, List.mem_singleton.2 rfl⟩

/-- A pass-through cluster that stands for another port of the same host. -/
def secureCluster : Cluster := ⟨"outbound|443||b.com", .numbered passThroughCode⟩

/-- It stands for that. -/
theorem derives_secureCluster : Derives secureCluster "b.com" 443 :=
  ⟨by decide, ⟨.outbound, "443", "", "b", "com", "b.com"⟩, by decide +kernel, rfl, rfl,
    by decide +kernel⟩

/-- The rule for a host with two ports is that of the first cluster. -/
theorem port_open_of_first :
    let answers := listing ["outbound|80||b.com", "outbound|443||b.com"]
    ∃ pattern number, FirstDerived [plainCluster, secureCluster] (Reaches "b.com") pattern number ∧
      (DataPlane.matchEgress
        (idle.run [.cycle .egress .manager answers]).egressCache "b.com").result =
        some (plainRule pattern number) := by
  intro answers
  have hlast : lastOk
      [(Dialogue.listClusters.answered
          ⟨"pod", "shop", "10.0.0.1"⟩ (listing []) Cursors.start).result,
        idle.listed answers] = some [plainCluster, secureCluster] := by decide +kernel
  have hacceptable := Egress.acceptable_of_validateFrom [plainCluster, secureCluster]
    (by decide +kernel)
  obtain ⟨pattern, number, hfirst, hresult, -⟩ := derived_port_of_first
    ⟨"pod", "shop", "10.0.0.1"⟩ (listing []) (listing []) [.cycle .egress .manager answers]
    [plainCluster, secureCluster] hlast hacceptable secureCluster (by simp) "b.com" 443
    derives_secureCluster
  exact ⟨pattern, number, hfirst, hresult⟩

/-- A cluster before it with another port keeps the port of a cluster from being open for its host,
although the rules of both are valid. -/
theorem port_shadowed_by_first :
    let answers := listing ["outbound|80||b.com", "outbound|443||b.com"]
    idle.listed answers = .ok [plainCluster, secureCluster] ∧
      (∀ c ∈ [plainCluster, secureCluster], ∀ host port, Derives c host port →
        Acceptable host port) ∧
      Derives secureCluster "b.com" 443 ∧
      ¬ ∃ rule, (DataPlane.matchEgress (idle.cycle .egress .manager answers).egressCache
        "b.com").result = some rule ∧ ⟨443, "http"⟩ ∈ rule.ports := by
  intro answers
  have hresult : (DataPlane.matchEgress (idle.cycle .egress .manager answers).egressCache
      "b.com").result = some (plainRule "b.com" 80) := by decide +kernel
  refine ⟨by decide +kernel, Egress.acceptable_of_validateFrom _ (by decide +kernel),
    derives_secureCluster, ?_⟩
  rintro ⟨rule, heq, hport⟩
  cases hresult.symm.trans heq
  exact absurd hport (by decide)

end Working

end SidecarAgent.Agent
