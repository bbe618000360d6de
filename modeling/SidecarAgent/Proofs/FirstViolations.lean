import SidecarAgent.Proofs.FirstMembers
import SidecarAgent.Proofs.RuleValidation
import SidecarAgent.Proofs.Texts

/-!
# Which violation is reported

A rule set that is not accepted is rejected for its first violation (`validateFrom_eq_error_iff`):
that of the first rule that is not valid, and in it (`FirstViolation`) that it has no hosts, that it
has no ports, its first invalid host, or its first invalid port, whose number is looked at before
its protocol.  So a longer rule set is rejected for what its beginning is rejected for, and one with
a beginning that is accepted for what the rest is rejected for, with the rules counted on
(`validateFrom_append`).
-/

namespace SidecarAgent.Egress

/-! ## Protocols -/

/-- Texts are the same in any case when they differ in the case of their letters only. -/
def SameInAnyCase (s t : String) : Prop := s.toList.map Char.toLower = t.toList.map Char.toLower

/-- A text names a known protocol, in letters of either case. -/
def NamesProtocol (text : String) : Prop :=
  ∃ name ∈ ["HTTP", "HTTPS", "HTTP2", "GRPC", "TCP", "TLS"], SameInAnyCase text name

/-- Texts have the same capitals exactly if they are the same in any case. -/
theorem Protocol.capitals_eq_iff {s t : String} :
    capitals s = capitals t ↔ SameInAnyCase s t := by
  unfold capitals SameInAnyCase
  rw [← Text.map_toUpper_eq_iff, ← String.toList_inj, String.toList_ofList, String.toList_ofList]

/-- A protocol is found for the texts that name one. -/
theorem Protocol.isSome_ofText?_iff {text : String} :
    (ofText? text).isSome = true ↔ NamesProtocol text := by
  have hnames : all.map name = ["HTTP", "HTTPS", "HTTP2", "GRPC", "TCP", "TLS"] := rfl
  have hcapitals : ∀ p : Protocol, capitals p.name = p.name := by
    intro p
    cases p <;> decide
  unfold ofText? NamesProtocol
  rw [List.find?_isSome, ← hnames]
  constructor
  · rintro ⟨p, hp, hname⟩
    refine ⟨p.name, List.mem_map_of_mem hp, ?_⟩
    rw [← capitals_eq_iff, hcapitals]
    exact (of_decide_eq_true hname).symm
  · rintro ⟨name, hname, hsame⟩
    obtain ⟨p, hp, rfl⟩ := List.mem_map.1 hname
    refine ⟨p, hp, decide_eq_true ?_⟩
    rw [← capitals_eq_iff, hcapitals] at hsame
    exact hsame.symm

/-- A port is valid when its number is in range and it names a known protocol. -/
theorem Port.valid_iff {port : Port} :
    port.Valid ↔ (1 ≤ port.number ∧ port.number ≤ 65535) ∧ NamesProtocol port.protocol := by
  rw [← Protocol.isSome_ofText?_iff]
  constructor
  · intro h
    exact ⟨h.inRange, h.known⟩
  · rintro ⟨hrange, hknown⟩
    exact ⟨hrange, hknown⟩

/-! ## First violations -/

/-- The first violation of a port: its number is out of range or, with a number in range, its
protocol is unknown. -/
inductive PortViolation (port : Port) : ValidationError → Prop
  | range (hrange : ¬ (1 ≤ port.number ∧ port.number ≤ 65535)) :
      PortViolation port (.invalidPort port.number)
  | protocol (hrange : 1 ≤ port.number ∧ port.number ≤ 65535)
      (hprotocol : ¬ NamesProtocol port.protocol) :
      PortViolation port (.unknownProtocol port.protocol)

/-- The first violation of a rule, which is the one with some index: it has no hosts; it has no
ports; a host is invalid behind valid ones; or, with valid hosts, a port behind valid ones has a
violation. -/
inductive FirstViolation (index : ℕ) (rule : Rule) : ValidationError → Prop
  | noHosts (hhosts : rule.hosts = []) : FirstViolation index rule (.noHosts index)
  | noPorts (hhosts : rule.hosts ≠ []) (hports : rule.ports = []) :
      FirstViolation index rule (.noPorts index)
  | host {before : List String} {host : String} {after : List String} {e : ValidationError}
      (hports : rule.ports ≠ []) (hsplit : rule.hosts = before ++ host :: after)
      (hbefore : ∀ h ∈ before, validateHost h = .ok ()) (herror : validateHost host = .error e) :
      FirstViolation index rule e
  | port {before : List Port} {port : Port} {after : List Port} {e : ValidationError}
      (hne : rule.hosts ≠ []) (hhosts : ∀ h ∈ rule.hosts, validateHost h = .ok ())
      (hsplit : rule.ports = before ++ port :: after) (hbefore : ∀ p ∈ before, p.Valid)
      (hviolation : PortViolation port e) : FirstViolation index rule e

/-- A check on every member of a list fails where the first member fails it. -/
theorem checkAll_eq_error_iff {α : Type} {check : α → Except ValidationError Unit} {l : List α}
    {e : ValidationError} :
    checkAll check l = .error e ↔
      ∃ before a after, l = before ++ a :: after ∧ (∀ b ∈ before, check b = .ok ()) ∧
        check a = .error e := by
  induction l with
  | nil => simp [checkAll]
  | cons a rest ih =>
    rw [exists_first_cons_iff, ← ih, checkAll]
    cases check a with
    | error f => simp
    | ok _ => simp

/-- A port is rejected for its first violation. -/
theorem validatePort_eq_error_iff {port : Port} {e : ValidationError} :
    validatePort port = .error e ↔ PortViolation port e := by
  have hknown : (Protocol.ofText? port.protocol).isSome = true ↔ NamesProtocol port.protocol :=
    Protocol.isSome_ofText?_iff
  constructor
  · intro h
    unfold validatePort parseProtocol at h
    split at h
    · rename_i hrange
      cases hfound : Protocol.ofText? port.protocol with
      | some p =>
        rw [hfound] at h
        cases h
      | none =>
        rw [hfound] at h hknown
        cases h
        exact .protocol hrange fun hnames => absurd (hknown.2 hnames) (by simp)
    · rename_i hrange
      cases h
      exact .range hrange
  · intro h
    unfold validatePort parseProtocol
    cases h with
    | range hrange => rw [if_neg hrange]
    | protocol hrange hprotocol =>
      have hnone : Protocol.ofText? port.protocol = none :=
        Option.not_isSome_iff_eq_none.1 (mt hknown.1 hprotocol)
      rw [if_pos hrange, hnone]

/-- A rule is rejected for its first violation. -/
theorem validateRule_eq_error_iff {index : ℕ} {rule : Rule} {e : ValidationError} :
    validateRule index rule = .error e ↔ FirstViolation index rule e := by
  constructor
  · intro h
    unfold validateRule at h
    split at h
    · rename_i hhosts
      cases h
      exact .noHosts (List.isEmpty_iff.1 hhosts)
    rename_i hhosts
    split at h
    · rename_i hports
      cases h
      exact .noPorts (mt List.isEmpty_iff.2 hhosts) (List.isEmpty_iff.1 hports)
    rename_i hports
    split at h
    · rename_i hcheck
      cases h
      obtain ⟨before, host, after, hsplit, hbefore, herror⟩ := checkAll_eq_error_iff.1 hcheck
      exact .host (mt List.isEmpty_iff.2 hports) hsplit hbefore herror
    · rename_i hcheck
      obtain ⟨before, port, after, hsplit, hbefore, herror⟩ := checkAll_eq_error_iff.1 h
      exact .port (mt List.isEmpty_iff.2 hhosts) (checkAll_eq_ok_iff.1 hcheck) hsplit
        (fun p hp => validatePort_eq_ok_iff.1 (hbefore p hp)) (validatePort_eq_error_iff.1 herror)
  · intro h
    unfold validateRule
    cases h with
    | noHosts hhosts => simp [hhosts]
    | noPorts hhosts hports => simp [hhosts, hports]
    | host hports hsplit hbefore herror =>
      have hhosts : rule.hosts ≠ [] := by simp [hsplit]
      have hcheck : checkAll validateHost rule.hosts = .error e :=
        checkAll_eq_error_iff.2 ⟨_, _, _, hsplit, hbefore, herror⟩
      simp [hhosts, hports, hcheck]
    | port hhosts hall hsplit hbefore hviolation =>
      have hports : rule.ports ≠ [] := by simp [hsplit]
      have hcheck : checkAll validateHost rule.hosts = .ok () := checkAll_eq_ok_iff.2 hall
      have hfails : checkAll validatePort rule.ports = .error e :=
        checkAll_eq_error_iff.2 ⟨_, _, _, hsplit,
          fun p hp => validatePort_eq_ok_iff.2 (hbefore p hp),
          validatePort_eq_error_iff.2 hviolation⟩
      simp [hhosts, hports, hcheck, hfails]

/-- Rules are rejected for the first violation of the first rule that is not valid. -/
theorem validateFrom_eq_error_iff {index : ℕ} {rules : List Rule} {e : ValidationError} :
    validateFrom index rules = .error e ↔
      ∃ before rule after, rules = before ++ rule :: after ∧ (∀ r ∈ before, r.Valid) ∧
        FirstViolation (index + before.length) rule e := by
  induction rules generalizing index with
  | nil => simp [validateFrom]
  | cons rule rest ih =>
    have hrest : validateFrom (index + 1) rest = .error e ↔
        ∃ before r after, rest = before ++ r :: after ∧ (∀ s ∈ before, s.Valid) ∧
          FirstViolation (index + (rule :: before).length) r e := by
      rw [ih]
      simp only [List.length_cons, Nat.add_assoc, Nat.add_comm 1]
    rw [exists_first_cons_iff, ← hrest, List.length_nil, Nat.add_zero, ← validateRule_eq_error_iff,
      ← validateRule_eq_ok_iff index, validateFrom]
    cases validateRule index rule with
    | error f => simp
    | ok _ => simp

/-! ## Rule sets put together -/

namespace ValidationError

/-- A violation, with the rules counted from a later place. -/
def movedBy (n : ℕ) : ValidationError → ValidationError
  | noHosts index => noHosts (index + n)
  | noPorts index => noPorts (index + n)
  | invalidHost host fault => invalidHost host fault
  | invalidPort number => invalidPort number
  | unknownProtocol text => unknownProtocol text

end ValidationError

/-- Hosts are rejected without regard to the place of their rule. -/
theorem movedBy_of_validateHost {host : String}
    {e : ValidationError} (h : validateHost host = .error e)
    (n : ℕ) : e.movedBy n = e := by
  unfold validateHost at h
  split at h
  · cases h
  · cases h
    rfl

/-- A violation of a rule is found wherever the rule stands, with its place in it. -/
theorem FirstViolation.movedBy {index : ℕ} {rule : Rule} {e : ValidationError}
    (h : FirstViolation index rule e) (n : ℕ) : FirstViolation (index + n) rule (e.movedBy n) := by
  cases h with
  | noHosts hhosts => exact .noHosts hhosts
  | noPorts hhosts hports => exact .noPorts hhosts hports
  | host hports hsplit hbefore herror =>
    rw [movedBy_of_validateHost herror]
    exact .host hports hsplit hbefore herror
  | port hhosts hall hsplit hbefore hviolation =>
    have hsame : e.movedBy n = e := by
      cases hviolation with
      | range _ => rfl
      | protocol _ _ => rfl
    rw [hsame]
    exact .port hhosts hall hsplit hbefore hviolation

/-- Rules that are counted from a later place are rejected for the same violation, counted from
there. -/
theorem validateFrom_movedBy {index : ℕ} {rules : List Rule} {e : ValidationError}
    (h : validateFrom index rules = .error e) (n : ℕ) :
    validateFrom (index + n) rules = .error (e.movedBy n) := by
  obtain ⟨before, rule, after, hsplit, hvalid, hfirst⟩ := validateFrom_eq_error_iff.1 h
  refine validateFrom_eq_error_iff.2 ⟨before, rule, after, hsplit, hvalid, ?_⟩
  have hplace : index + n + before.length = index + before.length + n := by omega
  rw [hplace]
  exact hfirst.movedBy n

/-- Rules are looked at before those behind them, which are counted on. -/
theorem validateFrom_append (index : ℕ) (a b : List Rule) :
    validateFrom index (a ++ b) = match validateFrom index a with
      | .error e => .error e
      | .ok () => validateFrom (index + a.length) b := by
  induction a generalizing index with
  | nil => rfl
  | cons rule rest ih =>
    rw [List.cons_append, validateFrom, validateFrom]
    cases validateRule index rule with
    | error e => rfl
    | ok _ =>
      have hplace : index + 1 + rest.length = index + (rule :: rest).length := by
        rw [List.length_cons]
        omega
      rw [← hplace]
      exact ih (index + 1)

/-- A rule set is rejected for the violation that is found in it. -/
theorem validate_eq_error_iff {rules : List Rule} {e : ValidationError} :
    validate rules = .error e ↔ validateFrom 0 rules = .error e := by
  unfold validate
  split
  · rename_i h
    simp [h]
  · rename_i h
    simp [h]

/-! ## Answers -/

/-- A rule is valid exactly if it has no violation. -/
theorem Rule.valid_iff_no_violation {rule : Rule} :
    rule.Valid ↔ ∀ e, ¬ FirstViolation 0 rule e := by
  rw [← validateRule_eq_ok_iff 0]
  simp only [← validateRule_eq_error_iff]
  cases validateRule 0 rule with
  | error e => simp
  | ok _ => simp

/-- A rule set is accepted exactly if every rule has hosts and ports, all hosts are valid, and all
ports are in range and name a known protocol. -/
theorem exists_validate_rules_iff {rules : List Rule} :
    (∃ valid, validate rules = .ok valid ∧ valid.rules = rules) ↔
      ∀ rule ∈ rules, rule.hosts ≠ [] ∧ rule.ports ≠ [] ∧
        (∀ host ∈ rule.hosts, validateHost host = .ok ()) ∧
        ∀ port ∈ rule.ports,
          (1 ≤ port.number ∧ port.number ≤ 65535) ∧ NamesProtocol port.protocol := by
  have haccepted : (∃ valid, validate rules = .ok valid ∧ valid.rules = rules) ↔
      ∃ valid, validate rules = .ok valid :=
    exists_congr fun valid => and_iff_left_of_imp validate_eq_ok_iff.1
  rw [haccepted, exists_validate_iff]
  simp only [Rule.valid_iff, Port.valid_iff]

/-- Rule sets put together are accepted or rejected as their rules are, one set after the other. -/
theorem validate_append (a b : List Rule) :
    (∀ e, validate a = .error e → validate (a ++ b) = .error e) ∧
      (∀ va e, validate a = .ok va → validate b = .error e →
        validate (a ++ b) = .error (e.movedBy a.length)) ∧
      ∀ va vb, validate a = .ok va → validate b = .ok vb →
        ∃ valid, validate (a ++ b) = .ok valid ∧ valid.rules = a ++ b := by
  have happend := validateFrom_append 0 a b
  refine ⟨?_, ?_, ?_⟩
  · intro e ha
    rw [validate_eq_error_iff] at ha ⊢
    rw [happend, ha]
  · intro va e ha hb
    have haccepted : validateFrom 0 a = .ok () := validate_eq_ok_iff.1 ha ▸ va.valid
    rw [validate_eq_error_iff] at hb ⊢
    rw [happend, haccepted]
    exact validateFrom_movedBy hb a.length
  · intro va vb ha hb
    have hvalid : ∀ rule ∈ a ++ b, rule.Valid :=
      List.forall_mem_append.2 ⟨exists_validate_iff.1 ⟨va, ha⟩, exists_validate_iff.1 ⟨vb, hb⟩⟩
    obtain ⟨valid, hboth⟩ := exists_validate_iff.2 hvalid
    exact ⟨valid, hboth, validate_eq_ok_iff.1 hboth⟩

/-- A rule set is accepted, and given back as it is, exactly if every rule has hosts and ports, all
hosts are valid, and all ports are in range and name one of the known protocols in letters of either
case.  Otherwise the first violation of the first rule with any is reported.  For rule sets put
together that is the violation of the first if it is rejected, else that of the second with the
rules counted on. -/
theorem first_violation_reported :
    (∀ rules, (∃ valid, validate rules = .ok valid ∧ valid.rules = rules) ↔
      ∀ rule ∈ rules, rule.hosts ≠ [] ∧ rule.ports ≠ [] ∧
        (∀ host ∈ rule.hosts, validateHost host = .ok ()) ∧
        ∀ port ∈ rule.ports,
          (1 ≤ port.number ∧ port.number ≤ 65535) ∧ NamesProtocol port.protocol) ∧
    (∀ rules valid, validate rules = .ok valid → valid.rules = rules) ∧
    (∀ rules e, validate rules = .error e ↔
      ∃ before rule after, rules = before ++ rule :: after ∧
        (∀ r ∈ before, ∀ e, ¬ FirstViolation 0 r e) ∧ FirstViolation before.length rule e) ∧
    ∀ a b,
      (∀ e, validate a = .error e → validate (a ++ b) = .error e) ∧
      (∀ va e, validate a = .ok va → validate b = .error e →
        validate (a ++ b) = .error (e.movedBy a.length)) ∧
      ∀ va vb, validate a = .ok va → validate b = .ok vb →
        ∃ valid, validate (a ++ b) = .ok valid ∧ valid.rules = a ++ b := by
  refine ⟨fun rules => exists_validate_rules_iff, fun rules valid => validate_eq_ok_iff.1, ?_,
    validate_append⟩
  intro rules e
  rw [validate_eq_error_iff, validateFrom_eq_error_iff]
  simp only [Nat.zero_add, Rule.valid_iff_no_violation]

/-- Behind a valid rule, the unknown protocol of an earlier port comes before the range of a later
one. -/
example : validateFrom 0 [⟨["example"], [⟨80, "http"⟩]⟩,
    ⟨["*.example"], [⟨443, "smtp"⟩, ⟨0, "tcp"⟩]⟩] =
    .error (.unknownProtocol "smtp") := rfl

end SidecarAgent.Egress
