import Mathlib.Data.List.Induction
import SidecarAgent.Endpoint.Cache
import SidecarAgent.Proofs.Texts

/-!
# Look-ups by service and tags

The endpoint cache has of every cluster what was set for it last, unless it was deleted since
(`Cache.get?_after_eq_some_iff`).  A look-up by service and tags gives the instances of the least
cluster, by the bytes of its name, that offers them (`Cache.Least`): its name reads as one of the
service, and its subset has all of the tags.  Whoever asks for fewer tags finds the same cluster or
one before it, and clusters of other services make no difference to the answer.
-/

namespace SidecarAgent.Endpoint

open Discovery (ResourceName)
open Text (bytes bytes_lt_iff bytes_le_iff)

/-! ## What fits -/

/-- A cached subset fits a service and tags when it is of the service and has the tags. -/
theorem Cached.fits_iff {c : Cached} {service : String} {tags : Tags} :
    c.fits service tags = true ↔
      c.service = some service ∧ Tags.includes c.subset.tags tags = true := by
  unfold Cached.fits Subset.matchesTags
  rw [Bool.and_eq_true, decide_eq_true_eq]

namespace Cache

variable {cache : Cache} {service : String} {tags : Tags}

/-- A cluster is of a service when its name reads as a name of the service. -/
theorem serviceOf_eq_some_iff {cluster service : String} :
    serviceOf cluster = some service ↔
      ∃ name, ResourceName.parse? cluster = some name ∧ name.service = service :=
  Option.map_eq_some_iff

/-- A look-up finds nothing when no cached subset fits. -/
theorem instances?_eq_none_iff :
    cache.instances? service tags = none ↔
      ∀ k c, cache.get? k = some c → ¬ c.fits service tags := by
  unfold instances?
  rw [Option.map_eq_none_iff, List.find?_eq_none]
  constructor
  · intro h k c hc
    exact h c ((KeyMap.mem_values_iff cache c).2 ⟨k, hc⟩)
  · intro h c hc
    obtain ⟨k, hk⟩ := (KeyMap.mem_values_iff cache c).1 hc
    exact h k c hk

/-- What a look-up finds are the instances of a cached subset that fits, while none under a smaller
key does. -/
theorem instances?_eq_some_iff {found : List Instance} :
    cache.instances? service tags = some found ↔
      ∃ k c, cache.get? k = some c ∧ c.fits service tags = true ∧ c.subset.instances = found ∧
        ∀ j d, j < k → cache.get? j = some d → d.fits service tags = false := by
  unfold instances?
  rw [Option.map_eq_some_iff]
  constructor
  · rintro ⟨c, hfirst, hfound⟩
    obtain ⟨k, hc, hfits, hsmaller⟩ := KeyMap.find?_values_eq_some_iff.1 hfirst
    exact ⟨k, c, hc, hfits, hfound, hsmaller⟩
  · rintro ⟨k, c, hc, hfits, hfound, hsmaller⟩
    exact ⟨c, KeyMap.find?_values_eq_some_iff.2 ⟨k, hc, hfits, hsmaller⟩, hfound⟩

end Cache

/-! ## Calls -/

/-- A call that changes the cache. -/
inductive Call where
  | set (cluster : String) (subset : Subset)
  | delete (cluster : String)
  deriving DecidableEq, Repr

namespace Call

/-- The cluster that a call is about. -/
def cluster : Call → String
  | set cluster _ => cluster
  | delete cluster => cluster

/-- The subset that a call leaves its cluster. -/
def subset? : Call → Option Subset
  | set _ subset => some subset
  | delete _ => none

end Call

namespace Cache

variable {calls : List Call} {cluster service : String} {subset : Subset} {tags : Tags}

/-- The cache after a call. -/
def perform (cache : Cache) : Call → Cache
  | .set cluster subset => cache.set cluster subset
  | .delete cluster => cache.delete cluster

/-- The cache after some calls, from its beginning. -/
def after (calls : List Call) : Cache := calls.foldl perform ∅

/-- A call leaves its cluster the subset that it sets, if it sets one, and every other cluster what
it had. -/
theorem get?_perform (cache : Cache) (call : Call) (k : String) :
    (cache.perform call).get? k =
      if k = call.cluster then call.subset?.map (Cached.mk (serviceOf k)) else cache.get? k := by
  cases call with
  | set cluster subset =>
    show (cache.insert cluster ⟨serviceOf cluster, subset⟩).get? k = _
    rw [KeyMap.get?_insert]
    by_cases hk : k = cluster
    · rw [if_pos hk, hk, Call.cluster, if_pos rfl]
      rfl
    · rw [if_neg hk, Call.cluster, if_neg hk]
  | delete cluster =>
    show (cache.erase cluster).get? k = _
    rw [KeyMap.get?_erase]
    rfl

/-- The last of some calls is made when the others have been. -/
theorem after_concat (calls : List Call) (call : Call) :
    after (calls ++ [call]) = (after calls).perform call := List.foldl_append

/-- Calls set a subset for a cluster last when one of them sets it, and no later one is about the
cluster. -/
def SetLast (calls : List Call) (cluster : String) (subset : Subset) : Prop :=
  ∃ earlier later, calls = earlier ++ .set cluster subset :: later ∧
    ∀ call ∈ later, call.cluster ≠ cluster

/-- What is set last is what the last call sets, if it is about the cluster, and otherwise what was
set last before it. -/
theorem setLast_concat_iff {call : Call} :
    SetLast (calls ++ [call]) cluster subset ↔
      if cluster = call.cluster then call.subset? = some subset
      else SetLast calls cluster subset := by
  unfold SetLast
  constructor
  · rintro ⟨earlier, later, hsplit, hlater⟩
    rcases List.eq_nil_or_concat later with rfl | ⟨others, last, rfl⟩
    · obtain ⟨-, hcall⟩ := List.append_inj' hsplit rfl
      cases hcall
      exact (if_pos rfl).mpr rfl
    · rw [List.concat_eq_append] at hsplit hlater
      have hsplit' : calls ++ [call] = (earlier ++ .set cluster subset :: others) ++ [last] := by
        rw [hsplit, List.append_assoc, List.cons_append]
      obtain ⟨hcalls, hlast⟩ := List.append_inj' hsplit' rfl
      cases hlast
      have hne : cluster ≠ call.cluster := (hlater call (by simp)).symm
      rw [if_neg hne]
      exact ⟨earlier, others, hcalls, fun other hother => hlater other (by simp [hother])⟩
  · intro h
    split at h
    · rename_i hcluster
      cases call with
      | set k s =>
        cases h
        cases hcluster
        exact ⟨calls, [], rfl, by simp⟩
      | delete k => cases h
    · rename_i hne
      obtain ⟨earlier, later, rfl, hlater⟩ := h
      refine ⟨earlier, later ++ [call], by simp, fun other hother => ?_⟩
      rcases List.mem_append.1 hother with hother | hother
      · exact hlater other hother
      · rw [List.mem_singleton.1 hother]
        exact fun heq => hne heq.symm

/-- The cache has of a cluster what was set for it last, under the service that its name gives. -/
theorem get?_after_eq_some_iff {c : Cached} :
    (after calls).get? cluster = some c ↔
      ∃ subset, SetLast calls cluster subset ∧ c = ⟨serviceOf cluster, subset⟩ := by
  induction calls using List.reverseRecOn with
  | nil =>
    constructor
    · intro h
      cases h
    · rintro ⟨subset, ⟨earlier, later, hsplit, -⟩, -⟩
      exact absurd hsplit.symm (by simp)
  | append_singleton calls call ih =>
    rw [after_concat, get?_perform]
    simp only [setLast_concat_iff]
    split
    · rw [Option.map_eq_some_iff]
      simp only [eq_comm]
    · exact ih

/-- The subset of a cluster is the one that was set for it last. -/
theorem subset?_after_eq_some_iff :
    (after calls).subset? cluster = some subset ↔ SetLast calls cluster subset := by
  unfold subset?
  rw [Option.map_eq_some_iff]
  simp only [get?_after_eq_some_iff]
  constructor
  · rintro ⟨c, ⟨s, hlast, rfl⟩, rfl⟩
    exact hlast
  · intro hlast
    exact ⟨⟨serviceOf cluster, subset⟩, ⟨subset, hlast, rfl⟩, rfl⟩

/-! ## Clusters that offer instances -/

/-- After some calls a cluster offers instances of a service with some tags: its name reads as a
name of the service, and the subset that was set for it last has all of the tags. -/
structure Offers (calls : List Call) (service : String) (tags : Tags) (cluster : String)
    (subset : Subset) : Prop where
  setLast : SetLast calls cluster subset
  named : ∃ name, ResourceName.parse? cluster = some name ∧ name.service = service
  tagged : ∀ tag v, tags.get? tag = some v → subset.tags.get? tag = some v

/-- The least of the clusters that offer instances, by the bytes of their names. -/
structure Least (calls : List Call) (service : String) (tags : Tags) (cluster : String)
    (subset : Subset) : Prop where
  offers : Offers calls service tags cluster subset
  least : ∀ k s, Offers calls service tags k s → bytes cluster ≤ bytes k

/-- A cluster offers instances when what is cached of it fits. -/
theorem offers_iff :
    Offers calls service tags cluster subset ↔
      ∃ c, (after calls).get? cluster = some c ∧ c.fits service tags = true ∧
        c.subset = subset := by
  constructor
  · rintro ⟨hlast, hnamed, htagged⟩
    refine ⟨_, get?_after_eq_some_iff.2 ⟨subset, hlast, rfl⟩, ?_, rfl⟩
    exact Cached.fits_iff.2 ⟨serviceOf_eq_some_iff.2 hnamed, (Tags.includes_iff _ _).2 htagged⟩
  · rintro ⟨c, hc, hfits, rfl⟩
    obtain ⟨s, hlast, rfl⟩ := get?_after_eq_some_iff.1 hc
    obtain ⟨hservice, hincludes⟩ := Cached.fits_iff.1 hfits
    exact ⟨hlast, serviceOf_eq_some_iff.1 hservice, (Tags.includes_iff _ _).1 hincludes⟩

/-- A look-up finds nothing when no cluster offers instances. -/
theorem instances?_after_eq_none_iff :
    (after calls).instances? service tags = none ↔
      ∀ cluster subset, ¬ Offers calls service tags cluster subset := by
  rw [instances?_eq_none_iff]
  constructor
  · intro h cluster subset hoffers
    obtain ⟨c, hc, hfits, -⟩ := offers_iff.1 hoffers
    exact h cluster c hc hfits
  · intro h k c hc hfits
    exact h k c.subset (offers_iff.2 ⟨c, hc, hfits, rfl⟩)

/-- A look-up finds the instances of the least cluster that offers any. -/
theorem instances?_after_eq_some_iff {found : List Instance} :
    (after calls).instances? service tags = some found ↔
      ∃ cluster subset, Least calls service tags cluster subset ∧ subset.instances = found := by
  rw [instances?_eq_some_iff]
  constructor
  · rintro ⟨k, c, hc, hfits, hfound, hsmaller⟩
    refine ⟨k, c.subset, ⟨offers_iff.2 ⟨c, hc, hfits, rfl⟩, fun j s hoffers => ?_⟩, hfound⟩
    rw [bytes_le_iff, ← String.not_lt]
    intro hlt
    obtain ⟨d, hd, hfits', -⟩ := offers_iff.1 hoffers
    rw [hsmaller j d hlt hd] at hfits'
    cases hfits'
  · rintro ⟨cluster, subset, ⟨hoffers, hleast⟩, hfound⟩
    obtain ⟨c, hc, hfits, rfl⟩ := offers_iff.1 hoffers
    refine ⟨cluster, c, hc, hfits, hfound, fun j d hj hd => ?_⟩
    rw [Bool.eq_false_iff]
    intro hfits'
    have hle : bytes cluster ≤ bytes j := hleast j d.subset (offers_iff.2 ⟨d, hd, hfits', rfl⟩)
    exact String.not_lt.2 (bytes_le_iff.1 hle) hj

/-- Where some cluster offers instances there is a least one, whose instances are found. -/
theorem exists_least (h : Offers calls service tags cluster subset) :
    ∃ k s, Least calls service tags k s ∧
      (after calls).instances? service tags = some s.instances := by
  cases hfound : (after calls).instances? service tags with
  | none => exact absurd h (instances?_after_eq_none_iff.1 hfound cluster subset)
  | some found =>
    obtain ⟨k, s, hleast, rfl⟩ := instances?_after_eq_some_iff.1 hfound
    exact ⟨k, s, hleast, rfl⟩

/-- A cluster that offers instances with some tags offers them with fewer tags. -/
theorem Offers.of_fewer {fewer : Tags}
    (hfewer : ∀ tag v, fewer.get? tag = some v → tags.get? tag = some v)
    (h : Offers calls service tags cluster subset) : Offers calls service fewer cluster subset :=
  ⟨h.setLast, h.named, fun tag v htag => h.tagged tag v (hfewer tag v htag)⟩

/-! ## Clusters of other services -/

/-- What is set last for a cluster does not depend on calls about other clusters. -/
theorem setLast_filter_iff {test : Call → Bool}
    (htest : ∀ call : Call, call.cluster = cluster → test call = true) :
    SetLast (calls.filter test) cluster subset ↔ SetLast calls cluster subset := by
  induction calls using List.reverseRecOn with
  | nil => rfl
  | append_singleton calls call ih =>
    rw [List.filter_append, setLast_concat_iff, ← ih]
    by_cases hcluster : cluster = call.cluster
    · have hkept : [call].filter test = [call] :=
        List.filter_cons_of_pos (htest call hcluster.symm)
      rw [hkept, setLast_concat_iff, if_pos hcluster]
    · rw [if_neg hcluster]
      cases hcall : test call with
      | true =>
        have hkept : [call].filter test = [call] := List.filter_cons_of_pos hcall
        rw [hkept, setLast_concat_iff, if_neg hcluster]
      | false =>
        have hdropped : [call].filter test = [] := List.filter_cons_of_neg (by simp [hcall])
        rw [hdropped, List.append_nil]

/-- The calls about the clusters of a service. -/
def callsOf (service : String) (calls : List Call) : List Call :=
  calls.filter fun call => serviceOf call.cluster = some service

/-- What offers instances of a service is a matter of the calls about its clusters. -/
theorem offers_callsOf_iff :
    Offers (callsOf service calls) service tags cluster subset ↔
      Offers calls service tags cluster subset := by
  have hlast : (∃ name, ResourceName.parse? cluster = some name ∧ name.service = service) →
      (SetLast (callsOf service calls) cluster subset ↔ SetLast calls cluster subset) := by
    intro hnamed
    refine setLast_filter_iff fun call hcall => ?_
    rw [hcall, decide_eq_true_eq]
    exact serviceOf_eq_some_iff.2 hnamed
  constructor
  · intro h
    exact ⟨(hlast h.named).1 h.setLast, h.named, h.tagged⟩
  · intro h
    exact ⟨(hlast h.named).2 h.setLast, h.named, h.tagged⟩

/-- What is found for a service is a matter of the calls about its clusters. -/
theorem instances?_after_callsOf :
    (after (callsOf service calls)).instances? service tags =
      (after calls).instances? service tags := by
  have hleast : ∀ k s, Least (callsOf service calls) service tags k s ↔
      Least calls service tags k s := by
    intro k s
    constructor
    · rintro ⟨hoffers, hleast⟩
      exact ⟨offers_callsOf_iff.1 hoffers, fun j t ht => hleast j t (offers_callsOf_iff.2 ht)⟩
    · rintro ⟨hoffers, hleast⟩
      exact ⟨offers_callsOf_iff.2 hoffers, fun j t ht => hleast j t (offers_callsOf_iff.1 ht)⟩
  ext found
  rw [instances?_after_eq_some_iff, instances?_after_eq_some_iff]
  simp only [hleast]

/-! ## Answers -/

/-- Whatever calls have been made, the cache has of every cluster the subset that was set for it
last.  A look-up gives the instances of the least cluster, by the bytes of its name, that reads as
one of the service and has all of the tags, and nothing exactly when there is no such cluster.
Asked for fewer tags it finds the same cluster or one before it.  Calls about clusters of other
services, or with names that do not read, make no difference. -/
theorem given_by_least_cluster (calls : List Call) (service : String) (tags : Tags) :
    (∀ cluster subset,
      (after calls).subset? cluster = some subset ↔ SetLast calls cluster subset) ∧
    (∀ found, (after calls).instances? service tags = some found ↔
      ∃ cluster subset, Least calls service tags cluster subset ∧ subset.instances = found) ∧
    ((after calls).instances? service tags = none ↔
      ∀ cluster subset, ¬ Offers calls service tags cluster subset) ∧
    (∀ fewer : Tags, (∀ tag v, fewer.get? tag = some v → tags.get? tag = some v) →
      ∀ cluster subset, Least calls service tags cluster subset →
        ∃ k s, Least calls service fewer k s ∧ bytes k ≤ bytes cluster ∧
          (after calls).instances? service fewer = some s.instances) ∧
    (after (callsOf service calls)).instances? service tags =
      (after calls).instances? service tags := by
  refine ⟨fun cluster subset => subset?_after_eq_some_iff,
    fun found => instances?_after_eq_some_iff, instances?_after_eq_none_iff,
    fun fewer hfewer cluster subset hleast => ?_, instances?_after_callsOf⟩
  have hoffers : Offers calls service fewer cluster subset := hleast.offers.of_fewer hfewer
  obtain ⟨k, s, hfirst, hfound⟩ := exists_least hoffers
  exact ⟨k, s, hfirst, hfirst.least cluster subset hoffers, hfound⟩

/-- A cluster that was set anew is found with its new tags only, and one that was deleted not at
all. -/
example :
    let tagged (version : String) : Subset :=
      .ofAddresses "outbound|80|a|web.shop" "a" (KeyMap.ofList [("version", version)]) [version]
    let calls : List Call := [.set "outbound|80|a|web.shop" (tagged "v1"),
      .set "outbound|80|b|web.shop" (tagged "v1"), .set "outbound|80|a|web.shop" (tagged "v2")]
    let cache := after calls
    cache.instances? "web" (KeyMap.ofList [("version", "v2")]) = some (tagged "v2").instances ∧
      (cache.perform (.delete "outbound|80|a|web.shop")).instances? "web" ∅
        = some (tagged "v1").instances := by
  decide

end Cache

end SidecarAgent.Endpoint
