import SidecarAgent.Telemetry.Note
import SidecarAgent.Text.Blank
import SidecarAgent.Text.Integer

/-!
# Log filters

A filter says how important an entry has to be to be written.  It is a list of directives between
commas, each a threshold, the name of a target, or both; of the directives whose target begins the
name of where an entry comes from, the one with the longest decides.  A directive that names a span
never decides, as no entry here is made within one.
-/

namespace SidecarAgent.Telemetry

/-! ## Thresholds -/

/-- The least important level that is let through, none if no entry is. -/
abbrev Threshold := Option Level

namespace Threshold

/-- Every threshold, in the order of their numbers, from zero. -/
def all : List Threshold :=
  [none, some .error, some .warn, some .info, some .debug, some .trace]

/-- The word for a threshold. -/
def text : Threshold → String
  | none => "OFF"
  | some level => level.text

/-- A threshold lets a level through that stands no further down. -/
def lets (t : Threshold) (level : Level) : Bool :=
  match t with
  | none => false
  | some least => level.rank ≤ least.rank

/-- Numbers of thresholds are below this bound before they are looked up. -/
def numberBound : Nat := UInt64.size

/-- The threshold that a text stands for: its number, or its word in small or large letters. -/
def ofText? (text : String) : Option Threshold :=
  match (Text.naturalBelow? numberBound text.toList).bind fun n => all[n]? with
  | some t => some t
  | none => all.find? fun t => t.text.toList = text.toList.map Char.toUpper

/-- The threshold that follows an equals sign: everything, if it is left out. -/
def ofSuffix? (text : String) : Option Threshold :=
  if text = "" then some (some .trace) else ofText? text

end Threshold

/-! ## Directives -/

/-- A directive: a threshold for what comes from a target, all of it if the target is empty, or
something about a span. -/
inductive Directive where
  | target (name : String) (threshold : Threshold)
  | span
  deriving DecidableEq, Repr

/-- A character that a directive may begin with, a bracket aside: a letter or digit, one of three
signs, or anything beyond ASCII. -/
def isTargetStart (c : Char) : Bool := c.isAlphanum || '\x7f' < c || c = '-' || c = ':' || c = '_'

/-- What follows a span: nothing, or an equals sign and a threshold. -/
def readSpanEnd? : List Char → Option Directive
  | [] => some .span
  | '=' :: rest => (Threshold.ofSuffix? (String.ofList rest)).map fun _ => .span
  | _ => none

/-- Reads a span behind its opening bracket. -/
def readSpan? (cs : List Char) : Option Directive :=
  match cs.dropWhile (· ≠ ']') with
  | _ :: rest => readSpanEnd? rest
  | [] => none

/-- A directive that is a single word: a threshold for everything, or everything from a target. -/
def Directive.ofWord (word : String) : Directive :=
  match Threshold.ofText? word with
  | some t => .target "" t
  | none => .target word (some .trace)

/-- Reads a directive. -/
def Directive.read? (cs : List Char) : Option Directive :=
  match cs with
  | [] => none
  | '[' :: rest => readSpan? rest
  | c :: _ =>
    if isTargetStart c then
      let name := String.ofList (cs.takeWhile fun c => c ≠ '=' && c ≠ '[')
      match cs.dropWhile fun c => c ≠ '=' && c ≠ '[' with
      | [] => some (.ofWord name)
      | '=' :: rest => (Threshold.ofSuffix? (String.ofList rest)).map (.target name)
      | _ :: rest => readSpan? rest
    else none

/-- A text without the blanks around it. -/
def trimmed (cs : List Char) : List Char :=
  ((cs.dropWhile Text.isBlank).reverse.dropWhile Text.isBlank).reverse

/-! ## Filters -/

/-- Directives, in the order in which they were given. -/
structure LogFilter where
  directives : List Directive
  deriving DecidableEq, Repr

namespace LogFilter

/-- The directives of a text and the pieces of it that are none. -/
def read (text : String) : List Directive × List String :=
  let pieces := (text.toList.splitOn ',').filter fun piece => !piece.isEmpty
  let isDirective := fun piece => (Directive.read? (trimmed piece)).isSome
  (pieces.filterMap fun piece => Directive.read? (trimmed piece),
    (pieces.filter fun piece => !isDirective piece).map String.ofList)

/-- The filter of a text, with a directive that stands in for an empty one, and the pieces of the
text that are left out. -/
def parse (fallback : Directive) (text : String) : LogFilter × List String :=
  match read text with
  | ([], ignored) => (⟨[fallback]⟩, ignored)
  | (directives, ignored) => (⟨directives⟩, ignored)

/-- The more telling of two directives for an origin: the one with the longer target, the later one
among equals. -/
def decideBetween (origin : String) (best : Option (String × Threshold)) :
    Directive → Option (String × Threshold)
  | .span => best
  | .target name threshold =>
    if name.toList.isPrefixOf origin.toList then
      match best with
      | none => some (name, threshold)
      | some (other, _) => if other.length ≤ name.length then some (name, threshold) else best
    else best

/-- The threshold for what comes from an origin. -/
def thresholdFor (filter : LogFilter) (origin : String) : Threshold :=
  ((filter.directives.foldl (decideBetween origin) none).map Prod.snd).getD none

/-- A filter lets an entry through. -/
def lets (filter : LogFilter) (origin : String) (entry : LogEntry) : Bool :=
  (filter.thresholdFor origin).lets entry.level

end LogFilter

end SidecarAgent.Telemetry
