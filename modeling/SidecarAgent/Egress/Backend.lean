import SidecarAgent.Egress.Derived
import SidecarAgent.Egress.RuleFile

/-!
# Egress backends

Where an agent's egress rules come from is named on its command line: a rule file, or the control
plane.  `select` says what a name stands for, given what there is to build a source from.
-/

namespace SidecarAgent.Egress

open Config (SourceError)

/-- What egress rules can come from. -/
inductive Backend where
  | ruleFile
  | controlPlane
  deriving DecidableEq, Repr

namespace Backend

/-- Every backend, in the order of their names. -/
def all : List Backend := [ruleFile, controlPlane]

/-- The name of a backend. -/
def name : Backend → String
  | ruleFile => "file"
  | controlPlane => "pilot"

/-- The names of the backends. -/
def names : List String := all.map name

/-- The backend of a name. -/
def ofName? (text : String) : Option Backend := all.find? fun b => b.name = text

end Backend

/-- Why there is no source of egress rules. -/
inductive BackendError where
  | unknownBackend (name : String)
  | missingClient (backend : Backend)
  | missingFile (backend : Backend)
  | source (cause : SourceError)
  deriving DecidableEq

/-- The wording of an error. -/
def BackendError.message : BackendError → String
  | unknownBackend name =>
    "unknown egress backend " ++ Text.quoted name ++ " (expected one of " ++
      Text.quotedList Backend.names ++ ")"
  | missingClient b =>
    "the " ++ b.name ++ " egress backend needs a control plane connection"
  | missingFile b => "the " ++ b.name ++ " egress backend needs a rule file"
  | source cause => cause.message

/-- What a backend makes a source of: a rule file that was read, or a connection to the control
plane, in which case the source is refreshed on a schedule. -/
inductive BackendSource (κ : Type) where
  | ruleFile (file : RuleFile)
  | controlPlane (client : κ)

/-- Selects the backend of a name, given a connection and a rule file, of which it needs one. -/
def select {κ : Type} (name : String) (client : Option κ) (file : Option FileContent) :
    Except BackendError (BackendSource κ) :=
  match Backend.ofName? name with
  | none => .error (.unknownBackend name)
  | some .controlPlane =>
    match client with
    | some c => .ok (.controlPlane c)
    | none => .error (.missingClient .controlPlane)
  | some .ruleFile =>
    match file with
    | none => .error (.missingFile .ruleFile)
    | some f =>
      match RuleFile.load f with
      | .ok rules => .ok (.ruleFile rules)
      | .error e => .error (.source e)

end SidecarAgent.Egress
