import Mathlib.Data.Nat.Notation
import Mathlib.Logic.Basic
import SidecarAgent.Egress.Rule

/-!
# Which rules are accepted

Validation looks at one rule after another, and in each at its hosts and then at its ports, up to
the first violation.  What it accepts does not depend on that order: a rule set is accepted when
every rule of it is valid (`validateFrom_eq_ok_iff`).
-/

namespace SidecarAgent.Egress

/-- A port is valid when its number is in range and its protocol is known. -/
structure Port.Valid (port : Port) : Prop where
  inRange : 1 ≤ port.number ∧ port.number ≤ 65535
  known : (Protocol.ofText? port.protocol).isSome

/-- A rule is valid when it has hosts and ports, and all of them are valid. -/
structure Rule.Valid (rule : Rule) : Prop where
  hasHosts : rule.hosts ≠ []
  hasPorts : rule.ports ≠ []
  hosts : ∀ host ∈ rule.hosts, validateHost host = .ok ()
  ports : ∀ port ∈ rule.ports, port.Valid

/-- What makes a rule valid, part by part. -/
theorem Rule.valid_iff {rule : Rule} :
    rule.Valid ↔ rule.hosts ≠ [] ∧ rule.ports ≠ [] ∧
      (∀ host ∈ rule.hosts, validateHost host = .ok ()) ∧ ∀ port ∈ rule.ports, port.Valid := by
  constructor
  · intro h
    exact ⟨h.hasHosts, h.hasPorts, h.hosts, h.ports⟩
  · rintro ⟨hasHosts, hasPorts, hosts, ports⟩
    exact ⟨hasHosts, hasPorts, hosts, ports⟩

/-- A check on every member of a list is passed when every member passes it. -/
theorem checkAll_eq_ok_iff {α : Type} {check : α → Except ValidationError Unit} {l : List α} :
    checkAll check l = .ok () ↔ ∀ a ∈ l, check a = .ok () := by
  induction l with
  | nil => simp [checkAll]
  | cons a rest ih =>
    rw [List.forall_mem_cons, ← ih, checkAll]
    cases check a with
    | error e => simp
    | ok _ => simp

/-- A port is accepted when it is valid. -/
theorem validatePort_eq_ok_iff {port : Port} : validatePort port = .ok () ↔ port.Valid := by
  unfold validatePort parseProtocol
  by_cases hrange : 1 ≤ port.number ∧ port.number ≤ 65535
  · rw [if_pos hrange]
    cases hprotocol : Protocol.ofText? port.protocol with
    | none =>
      constructor
      · intro h
        cases h
      · intro h
        have hknown := h.known
        rw [hprotocol] at hknown
        cases hknown
    | some p =>
      constructor
      · intro _
        exact ⟨hrange, by rw [hprotocol]; rfl⟩
      · intro _
        rfl
  · rw [if_neg hrange]
    constructor
    · intro h
      cases h
    · intro h
      exact absurd h.inRange hrange

/-- A rule is accepted when it is valid, whatever its place. -/
theorem validateRule_eq_ok_iff (index : ℕ) {rule : Rule} :
    validateRule index rule = .ok () ↔ rule.Valid := by
  have hports : checkAll validatePort rule.ports = .ok () ↔ ∀ port ∈ rule.ports, port.Valid := by
    rw [checkAll_eq_ok_iff]
    exact forall₂_congr fun port _ => validatePort_eq_ok_iff
  have hhosts : checkAll validateHost rule.hosts = .ok () ↔
      ∀ host ∈ rule.hosts, validateHost host = .ok () := checkAll_eq_ok_iff
  rw [Rule.valid_iff, ← hhosts, ← hports]
  unfold validateRule
  by_cases hnohosts : rule.hosts = []
  · simp [hnohosts]
  · by_cases hnoports : rule.ports = []
    · simp [hnohosts, hnoports]
    · cases hcheck : checkAll validateHost rule.hosts with
      | error e => simp [hnohosts, hnoports]
      | ok _ => simp [hnohosts, hnoports]

/-- Rules are accepted when each of them is valid. -/
theorem validateFrom_eq_ok_iff (index : ℕ) {rules : List Rule} :
    validateFrom index rules = .ok () ↔ ∀ rule ∈ rules, rule.Valid := by
  induction rules generalizing index with
  | nil => simp [validateFrom]
  | cons rule rest ih =>
    rw [List.forall_mem_cons, ← validateRule_eq_ok_iff index, ← ih (index + 1),
      validateFrom]
    cases validateRule index rule with
    | error e => simp
    | ok _ => simp

/-- A rule set is accepted when every rule of it is valid. -/
theorem exists_validate_iff {rules : List Rule} :
    (∃ valid, validate rules = .ok valid) ↔ ∀ rule ∈ rules, rule.Valid := by
  rw [← validateFrom_eq_ok_iff 0]
  constructor
  · rintro ⟨valid, hvalid⟩
    rw [← validate_eq_ok_iff.1 hvalid]
    exact valid.valid
  · intro h
    exact ⟨⟨rules, h⟩, validate_eq_ok_iff.2 rfl⟩

end SidecarAgent.Egress
