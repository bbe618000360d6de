import Mathlib.Tactic.ByContra
import SidecarAgent.Egress.Publisher

/-!
# Look-ups of egress rules

A host is won by the first rule that names it, under the least key that has such a rule, and only
when no rule under any key names it by the first rule that covers it (`Cache.Wins`).  A look-up
gives the rule that wins, whatever patterns the rules mix.  So it is a matter of the key of the
winner: a change under another key, which wins neither before nor after it, leaves the answer as it
is (`Cache.Wins.transfer`).
-/

namespace SidecarAgent.Egress

/-! ## Patterns -/

/-- A pattern that names a host is the host, and has no star. -/
theorem namesHost_iff {host pattern : String} :
    namesHost host.toList pattern.toList = true ↔
      pattern = host ∧ pattern.toList.head? ≠ some '*' := by
  unfold namesHost
  rw [Bool.and_eq_true, decide_eq_true_eq, decide_eq_true_eq, String.toList_inj]
  exact and_comm

/-- A pattern that covers a host is a star before an ending of the host. -/
theorem coversHost_iff {host pattern : String} :
    coversHost host.toList pattern.toList = true ↔
      ∃ beginning ending, host = beginning ++ ending ∧ pattern = "*" ++ ending := by
  constructor
  · intro h
    unfold coversHost at h
    split at h
    · rename_i ending hpattern
      obtain ⟨beginning, hhost⟩ := List.isSuffixOf_iff_suffix.1 h
      refine ⟨String.ofList beginning, String.ofList ending, ?_, ?_⟩
      · rw [← String.toList_inj, ← hhost]
        simp
      · rw [← String.toList_inj, hpattern]
        simp
    · cases h
  · rintro ⟨beginning, ending, rfl, rfl⟩
    have hpattern : ("*" ++ ending).toList = '*' :: ending.toList := by simp
    rw [hpattern, String.toList_append]
    exact List.isSuffixOf_iff_suffix.2 (List.suffix_append _ _)

/-- A host begins with a star. -/
def Starred (host : String) : Prop := host.toList.head? = some '*'

namespace Rule

/-- A rule names a host when it lists the host, which has no star before it. -/
def Names (rule : Rule) (host : String) : Prop := host ∈ rule.hosts ∧ ¬ Starred host

/-- A rule covers a host when it lists an ending of the host with a star before it. -/
def Covers (rule : Rule) (host : String) : Prop :=
  ∃ beginning ending, host = beginning ++ ending ∧ "*" ++ ending ∈ rule.hosts

/-- A rule has a pattern that names a host when it names the host. -/
theorem any_namesHost_iff (rule : Rule) (host : String) :
    (rule.hosts.any fun pattern => namesHost host.toList pattern.toList) = true ↔
      rule.Names host := by
  simp only [List.any_eq_true, namesHost_iff]
  constructor
  · rintro ⟨pattern, hmem, rfl, hstar⟩
    exact ⟨hmem, hstar⟩
  · rintro ⟨hmem, hstar⟩
    exact ⟨host, hmem, rfl, hstar⟩

/-- A rule has a pattern that covers a host when it covers the host. -/
theorem any_coversHost_iff (rule : Rule) (host : String) :
    (rule.hosts.any fun pattern => coversHost host.toList pattern.toList) = true ↔
      rule.Covers host := by
  simp only [List.any_eq_true, coversHost_iff]
  constructor
  · rintro ⟨pattern, hmem, beginning, ending, hhost, rfl⟩
    exact ⟨beginning, ending, hhost, hmem⟩
  · rintro ⟨beginning, ending, hhost, hmem⟩
    exact ⟨"*" ++ ending, hmem, beginning, ending, hhost, rfl⟩

end Rule

namespace Cache

variable {cache other : Cache} {property : Rule → Prop} {key : String} {rule : Rule} {host : String}

/-! ## The first rule with a property -/

/-- A cache has a rule under a key when it is one of those published there. -/
def Has (cache : Cache) (key : String) (rule : Rule) : Prop :=
  ∃ valid, cache.get? key = some valid ∧ rule ∈ valid.rules

/-- The first rule with a property: it has the property, none of those before it under its key has,
and under a smaller key there is none. -/
structure First (cache : Cache) (property : Rule → Prop) (key : String) (rule : Rule) : Prop where
  holds : property rule
  leads : ∃ valid before after, cache.get? key = some valid ∧
    valid.rules = before ++ rule :: after ∧
    ∀ earlier ∈ before, ¬ property earlier
  least : ∀ k earlier, k < key → cache.Has k earlier → ¬ property earlier

/-- The first rule with a property is there. -/
theorem First.has (h : cache.First property key rule) : cache.Has key rule := by
  obtain ⟨valid, before, after, hvalid, hrules, -⟩ := h.leads
  exact ⟨valid, hvalid, by rw [hrules]; simp⟩

/-- The first rule with a property is under the least key that has such a rule. -/
theorem First.le_of_has {k : String} {r : Rule} (h : cache.First property key rule)
    (hhas : cache.Has k r) (hproperty : property r) : key ≤ k :=
  String.not_lt.1 fun hlt => h.least k r hlt hhas hproperty

/-- The cached rules are what the cache has under its keys. -/
theorem mem_rules_iff : rule ∈ cache.rules ↔ ∃ key, cache.Has key rule := by
  unfold Cache.rules
  rw [List.mem_flatMap]
  constructor
  · rintro ⟨valid, hvalid, hrule⟩
    obtain ⟨key, hkey⟩ := (KeyMap.mem_values_iff _ _).1 hvalid
    exact ⟨key, valid, hkey, hrule⟩
  · rintro ⟨key, valid, hkey, hrule⟩
    exact ⟨valid, (KeyMap.mem_values_iff _ _).2 ⟨key, hkey⟩, hrule⟩

/-- A test for a property finds the first rule with it. -/
theorem find?_rules_eq_some_iff {test : Rule → Bool} (htest : ∀ r, test r = true ↔ property r) :
    cache.rules.find? test = some rule ↔ ∃ key, cache.First property key rule := by
  unfold Cache.rules
  rw [List.find?_flatMap, KeyMap.findSome?_values_eq_some_iff]
  refine exists_congr fun key => ?_
  constructor
  · rintro ⟨valid, hvalid, hfound, hsmaller⟩
    obtain ⟨hrule, before, after, hrules, hbefore⟩ := List.find?_eq_some_iff_append.1 hfound
    refine ⟨(htest rule).1 hrule,
      ⟨valid, before, after, hvalid, hrules, fun r hr hproperty => ?_⟩, ?_⟩
    · have hfails := hbefore r hr
      rw [(htest r).2 hproperty] at hfails
      cases hfails
    · rintro k r hk ⟨smaller, hget, hmem⟩ hproperty
      exact List.find?_eq_none.1 (hsmaller k smaller hk hget) r hmem ((htest r).2 hproperty)
  · rintro ⟨hrule, ⟨valid, before, after, hvalid, hrules, hbefore⟩, hleast⟩
    refine ⟨valid, hvalid, ?_, fun k smaller hk hget => ?_⟩
    · refine List.find?_eq_some_iff_append.2 ⟨(htest rule).2 hrule, before, after, hrules, ?_⟩
      intro r hr
      rw [Bool.not_eq_true', Bool.eq_false_iff]
      exact fun h => hbefore r hr ((htest r).1 h)
    · refine List.find?_eq_none.2 fun r hr h => ?_
      exact hleast k r hk ⟨smaller, hget, hr⟩ ((htest r).1 h)

/-- A test for a property finds nothing when no rule has it. -/
theorem find?_rules_eq_none_iff {test : Rule → Bool} (htest : ∀ r, test r = true ↔ property r) :
    cache.rules.find? test = none ↔ ∀ key r, cache.Has key r → ¬ property r := by
  rw [List.find?_eq_none]
  constructor
  · intro h key r hr hproperty
    exact h r (mem_rules_iff.2 ⟨key, hr⟩) ((htest r).2 hproperty)
  · intro h r hr htrue
    obtain ⟨key, hkey⟩ := mem_rules_iff.1 hr
    exact h key r hkey ((htest r).1 htrue)

/-- Where some rule has a property there is a first one. -/
theorem exists_first (property : Rule → Prop) (hrule : cache.Has key rule)
    (hproperty : property rule) :
    ∃ k r, cache.First property k r := by
  classical
  have htest : ∀ r, decide (property r) = true ↔ property r := fun r => decide_eq_true_iff
  cases hfound : cache.rules.find? fun r => decide (property r) with
  | none => exact absurd hproperty ((find?_rules_eq_none_iff htest).1 hfound key rule hrule)
  | some r =>
    obtain ⟨k, hfirst⟩ := (find?_rules_eq_some_iff htest).1 hfound
    exact ⟨k, r, hfirst⟩

/-- A rule stays the first while only some other key changes, unless the first is there afterwards.
-/
theorem First.transfer {k : String} (h : cache.First property k rule) (hk : k ≠ key)
    (hsame : ∀ j, j ≠ key → other.get? j = cache.get? j)
    (hnew : ∀ r, ¬ other.First property key r) :
    other.First property k rule := by
  obtain ⟨hrule, ⟨valid, before, after, hvalid, hrules, hbefore⟩, hleast⟩ := h
  have hold : ∀ j r, j < k → j ≠ key → other.Has j r → ¬ property r := by
    rintro j r hj hne ⟨smaller, hget, hmem⟩
    exact hleast j r hj ⟨smaller, (hsame j hne).symm.trans hget, hmem⟩
  refine ⟨hrule, ⟨valid, before, after, (hsame k hk).trans hvalid, hrules, hbefore⟩, ?_⟩
  intro j r hj hhas hproperty
  by_cases hjk : j = key
  · -- then the first of all is under another key, which did not change and is smaller still
    obtain ⟨i, s, hfirst⟩ := exists_first property hhas hproperty
    have hi : i ≠ key := by
      rintro rfl
      exact hnew s hfirst
    have hij : i ≤ j := hfirst.le_of_has hhas hproperty
    have hik : i < k := String.not_le.1 fun hki => String.not_lt.2 (String.le_trans hki hij) hj
    exact hold i s hik hi hfirst.has hfirst.holds
  · exact hold j r hj hjk hhas hproperty

/-! ## Winners -/

/-- A rule wins a host when it is the first that names it or, if no rule under any key names it, the
first that covers it. -/
def Wins (cache : Cache) (host key : String) (rule : Rule) : Prop :=
  cache.First (Rule.Names · host) key rule ∨
    (∀ k r, cache.Has k r → ¬ r.Names host) ∧ cache.First (Rule.Covers · host) key rule

/-- A look-up gives the rule that wins the host. -/
theorem match?_eq_some_iff : cache.match? host = some rule ↔ ∃ key, cache.Wins host key rule := by
  unfold match? findRule? Wins
  rw [Option.or_eq_some_iff, find?_rules_eq_some_iff fun r => r.any_namesHost_iff host,
    find?_rules_eq_none_iff fun r => r.any_namesHost_iff host,
    find?_rules_eq_some_iff fun r => r.any_coversHost_iff host, exists_or, exists_and_left]

/-- A look-up gives nothing when no rule names or covers the host. -/
theorem match?_eq_none_iff :
    cache.match? host = none ↔
      ∀ key r, cache.Has key r → ¬ r.Names host ∧ ¬ r.Covers host := by
  unfold match? findRule?
  rw [Option.or_eq_none_iff, find?_rules_eq_none_iff fun r => r.any_namesHost_iff host,
    find?_rules_eq_none_iff fun r => r.any_coversHost_iff host]
  simp only [forall_and]

/-- Where some rule names a host, what is given for it names it. -/
theorem exists_match?_of_names (hrule : cache.Has key rule) (hnames : rule.Names host) :
    ∃ found, cache.match? host = some found ∧ found.Names host := by
  obtain ⟨k, found, hfirst⟩ := exists_first (Rule.Names · host) hrule hnames
  exact ⟨found, match?_eq_some_iff.2 ⟨k, .inl hfirst⟩, hfirst.holds⟩

/-- A rule stays the winner while only a key changes under which no rule wins, before or after. -/
theorem Wins.transfer {k : String} (h : cache.Wins host k rule)
    (hsame : ∀ j, j ≠ key → other.get? j = cache.get? j) (hold : ∀ r, ¬ cache.Wins host key r)
    (hnew : ∀ r, ¬ other.Wins host key r) : other.Wins host k rule := by
  have hk : k ≠ key := by
    rintro rfl
    exact hold rule h
  have hnames : ∀ r, ¬ other.First (Rule.Names · host) key r := fun r hr => hnew r (.inl hr)
  rcases h with hfirst | ⟨hnone, hfirst⟩
  · exact .inl (hfirst.transfer hk hsame hnames)
  · have hnone' : ∀ j r, other.Has j r → ¬ r.Names host := by
      -- a first rule that names the host would be under a key that did not change
      intro j r hr hrnames
      obtain ⟨i, s, hs⟩ := exists_first (Rule.Names · host) hr hrnames
      have hi : i ≠ key := by
        rintro rfl
        exact hnames s hs
      obtain ⟨valid, hvalid, hmem⟩ := hs.has
      exact hnone i s ⟨valid, (hsame i hi).symm.trans hvalid, hmem⟩ hs.holds
    exact .inr ⟨hnone', hfirst.transfer hk hsame fun r hr => hnew r (.inr ⟨hnone', hr⟩)⟩

/-- A look-up gives the same in two caches that differ under one key only, if no rule wins under it.
-/
theorem match?_congr (hsame : ∀ j, j ≠ key → other.get? j = cache.get? j)
    (hold : ∀ r, ¬ cache.Wins host key r) (hnew : ∀ r, ¬ other.Wins host key r) :
    other.match? host = cache.match? host := by
  ext r
  rw [match?_eq_some_iff, match?_eq_some_iff]
  constructor
  · rintro ⟨k, hwins⟩
    exact ⟨k, hwins.transfer (fun j hj => (hsame j hj).symm) hnew hold⟩
  · rintro ⟨k, hwins⟩
    exact ⟨k, hwins.transfer hsame hold hnew⟩

/-- No rule wins under a key that was withdrawn. -/
theorem not_wins_withdraw (cache : Cache) (host key : String) (rule : Rule) :
    ¬ (cache.withdraw key).1.Wins host key rule := by
  have hgone : ¬ (cache.withdraw key).1.Has key rule := by
    rintro ⟨valid, hvalid, -⟩
    rw [withdraw, KeyMap.get?_erase, if_pos rfl] at hvalid
    cases hvalid
  rintro (hfirst | ⟨-, hfirst⟩)
  · exact hgone hfirst.has
  · exact hgone hfirst.has

/-- A look-up gives the first rule that names the host, in the order of keys and then of rules; if
no rule under any key names it, the first that covers it; and nothing exactly when no rule does
either.  So a rule that names the host keeps all that cover it from being given.  Publishing a key
changes the answer only if a rule wins under it before or afterwards, and withdrawing one only if a
rule won under it. -/
theorem given_by_winner (cache : Cache) (host : String) :
    (∀ rule, cache.match? host = some rule ↔ ∃ key, cache.Wins host key rule) ∧
      (cache.match? host = none ↔
        ∀ key rule, cache.Has key rule → ¬ rule.Names host ∧ ¬ rule.Covers host) ∧
      (∀ key rule, cache.Has key rule → rule.Names host →
        ∃ found, cache.match? host = some found ∧ found.Names host) ∧
      (∀ key valid, (cache.publish key valid).match? host ≠ cache.match? host →
        (∃ rule, cache.Wins host key rule) ∨ ∃ rule, (cache.publish key valid).Wins host key rule) ∧
      ∀ key, (cache.withdraw key).1.match? host ≠ cache.match? host →
        ∃ rule, cache.Wins host key rule := by
  refine ⟨fun rule => match?_eq_some_iff, match?_eq_none_iff,
    fun key rule hrule hnames => exists_match?_of_names hrule hnames, fun key valid hchange => ?_,
    fun key hchange => ?_⟩
  · by_contra hloses
    rw [not_or, not_exists, not_exists] at hloses
    refine hchange (match?_congr (fun j hj => ?_) hloses.1 hloses.2)
    rw [publish, KeyMap.get?_insert, if_neg hj]
  · by_contra hloses
    rw [not_exists] at hloses
    refine hchange (match?_congr (fun j hj => ?_) hloses (not_wins_withdraw cache host key))
    rw [withdraw, KeyMap.get?_erase, if_neg hj]

/-- A rule that names the host is given before one under a smaller key that covers it. -/
example :
    let covering : Rule := ⟨["*.b.com"], [⟨80, "HTTP"⟩]⟩
    let naming : Rule := ⟨["a.b.com"], [⟨443, "TLS"⟩]⟩
    (((∅ : Cache).publish "x" ⟨[covering], rfl⟩).publish "y" ⟨[naming], rfl⟩).match?
      "a.b.com" = some naming := by
  decide

end Cache

end SidecarAgent.Egress
