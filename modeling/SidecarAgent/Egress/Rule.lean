import SidecarAgent.Egress.Host

/-!
# Egress rules

An egress rule names hosts outside the mesh that a sidecar may send traffic to, and the ports it may
use.  Rule sets come from sources that nobody checks, so `validate` stands between them and their
use: it accepts a rule set as it is, or reports its first violation.
-/

namespace SidecarAgent.Egress

/-- A port and the protocol spoken on it, as the rule's author wrote them. -/
structure Port where
  number : Int
  protocol : String
  deriving DecidableEq, Repr

/-- Hosts and the ports open on them. -/
structure Rule where
  hosts : List String := []
  ports : List Port := []
  deriving DecidableEq, Repr

/-! ## Protocols -/

/-- A protocol that a sidecar knows how to proxy. -/
inductive Protocol where
  | http
  | https
  | http2
  | grpc
  | tcp
  | tls
  deriving DecidableEq, Repr

namespace Protocol

/-- Every protocol. -/
def all : List Protocol := [http, https, http2, grpc, tcp, tls]

/-- The name of a protocol in capitals. -/
def name : Protocol → String
  | http => "HTTP"
  | https => "HTTPS"
  | http2 => "HTTP2"
  | grpc => "GRPC"
  | tcp => "TCP"
  | tls => "TLS"

/-- A text with its ASCII letters in capitals. -/
def capitals (text : String) : String := String.ofList (text.toList.map Char.toUpper)

/-- The protocol that a text names, in letters of either case. -/
def ofText? (text : String) : Option Protocol := all.find? fun p => p.name = capitals text

end Protocol

/-! ## Validation -/

/-- How a rule set can break the rules.  Rules are counted from zero. -/
inductive ValidationError where
  | noHosts (index : Nat)
  | noPorts (index : Nat)
  | invalidHost (host : String) (fault : HostFault)
  | invalidPort (number : Int)
  | unknownProtocol (text : String)
  deriving DecidableEq, Repr

/-- The wording of a violation. -/
def ValidationError.message : ValidationError → String
  | noHosts index => "rule " ++ toString index ++ " has no hosts"
  | noPorts index => "rule " ++ toString index ++ " has no ports"
  | invalidHost host fault => "invalid host name " ++ Text.quoted host ++ ": " ++ fault.reason
  | invalidPort number => "invalid port: " ++ toString number
  | unknownProtocol text => "unknown protocol: " ++ Text.quoted text

/-- Accepts a host name that follows the rules of host names. -/
def validateHost (host : String) : Except ValidationError Unit :=
  match checkHost host with
  | .ok () => .ok ()
  | .error fault => .error (.invalidHost host fault)

/-- Accepts the name of a known protocol. -/
def parseProtocol (text : String) : Except ValidationError Protocol :=
  match Protocol.ofText? text with
  | some p => .ok p
  | none => .error (.unknownProtocol text)

/-- Accepts a port in range with a known protocol; the range is looked at first. -/
def validatePort (port : Port) : Except ValidationError Unit :=
  if 1 ≤ port.number ∧ port.number ≤ 65535 then
    match parseProtocol port.protocol with
    | .ok _ => .ok ()
    | .error e => .error e
  else .error (.invalidPort port.number)

/-- Runs a check on every member of a list, up to the first that fails it. -/
def checkAll {α : Type} (check : α → Except ValidationError Unit) :
    List α → Except ValidationError Unit
  | [] => .ok ()
  | a :: rest =>
    match check a with
    | .error e => .error e
    | .ok () => checkAll check rest

/-- Accepts a rule with hosts and ports, all of them valid. -/
def validateRule (index : Nat) (rule : Rule) : Except ValidationError Unit :=
  if rule.hosts.isEmpty then .error (.noHosts index)
  else if rule.ports.isEmpty then .error (.noPorts index)
  else
    match checkAll validateHost rule.hosts with
    | .error e => .error e
    | .ok () => checkAll validatePort rule.ports

/-- Accepts rules, of which the first is counted as `index`, up to the first that breaks the rules.
-/
def validateFrom (index : Nat) : List Rule → Except ValidationError Unit
  | [] => .ok ()
  | rule :: rest =>
    match validateRule index rule with
    | .error e => .error e
    | .ok () => validateFrom (index + 1) rest

/-- A rule set that passes validation. -/
structure ValidRules where
  rules : List Rule
  valid : validateFrom 0 rules = .ok ()
  deriving DecidableEq

/-- Accepts a rule set as it is, or reports its first violation. -/
def validate (rules : List Rule) : Except ValidationError ValidRules :=
  match h : validateFrom 0 rules with
  | .ok () => .ok ⟨rules, h⟩
  | .error e => .error e

/-- The hosts of a rule set in brackets. -/
def ValidRules.text (valid : ValidRules) : String :=
  "[" ++ String.intercalate ", " (valid.rules.flatMap Rule.hosts) ++ "]"

/-- Validation gives a rule set back as it is. -/
theorem validate_eq_ok_iff {rules : List Rule} {valid : ValidRules} :
    validate rules = .ok valid ↔ valid.rules = rules := by
  constructor
  · intro h
    unfold validate at h
    split at h
    · cases h
      rfl
    · cases h
  · rintro rfl
    obtain ⟨rules, hv⟩ := valid
    unfold validate
    split
    · rfl
    · rename_i h
      rw [hv] at h
      cases h

end SidecarAgent.Egress
