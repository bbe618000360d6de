import SidecarAgent.KeyMap
import SidecarAgent.Text.Integer

/-!
# Structured documents

What a configuration document says, whatever language it is written in: scalars, lists and records.
The readers below turn it into values.  A record with known fields may also be written as the list
of its fields in order; fields it does not know are skipped.
-/

namespace SidecarAgent.Document

/-- What a scalar can be read as: a text, an integer, or the absence of a value. -/
structure Scalar where
  text : Option String := none
  integer : Option Int := none
  isNull : Bool := false
  deriving DecidableEq, Repr

/-- A document, or a part of one.  A sealed part can be skipped but not read. -/
inductive Data where
  | scalar (s : Scalar)
  | list (items : List Data)
  | record (entries : List (Data × Data))
  | sealed
  deriving Repr, Inhabited

namespace Data

/-- Reads a text. -/
def text? : Data → Option String
  | scalar s => s.text
  | _ => none

/-- Reads a signed 32-bit integer. -/
def int32? : Data → Option Int
  | scalar s => s.integer.filter fun n => decide (Text.FitsInt32 n)
  | _ => none

/-- Reads a list. -/
def listOf? {α : Type} (read : Data → Option α) : Data → Option (List α)
  | list items => items.mapM read
  | _ => none

/-- Reads the entries of a map with text keys. -/
def entriesOf? {α : Type} (read : Data → Option α) : Data → Option (List (String × α))
  | record entries =>
    entries.mapM fun e =>
      match text? e.1, read e.2 with
      | some k, some v => some (k, v)
      | _, _ => none
  | _ => none

/-- Reads a map with text keys, of which a later entry overrides an earlier one. -/
def mapOf? {α : Type} (read : Data → Option α) (d : Data) : Option (KeyMap α) :=
  (entriesOf? read d).map KeyMap.ofList

/-- Reads a value that may be absent. -/
def optional? {α : Type} (read : Data → Option α) (d : Data) : Option (Option α) :=
  match d with
  | scalar s => if s.isNull then some none else (read d).map some
  | _ => (read d).map some

/-! ## Records with known fields -/

/-- The entries under a key. -/
def fieldValues (name : String) (entries : List (String × Data)) : List Data :=
  (entries.filter fun e => e.1 = name).map Prod.snd

/-- The value of a field that may stand in a record once. -/
def fieldOnce? (entries : List (String × Data)) (name : String) : Option (Option Data) :=
  match fieldValues name entries with
  | [] => some none
  | [d] => some (some d)
  | _ => none

/-- The values of a record's known fields, in their order, where they are given. -/
def fields? (names : List String) : Data → Option (List (Option Data))
  | record entries =>
    match entriesOf? some (record entries) with
    | some named => names.mapM (fieldOnce? named)
    | none => none
  | list items =>
    if items.length ≤ names.length then
      some (items.map some ++ List.replicate (names.length - items.length) none)
    else none
  | _ => none

/-- Reads a field that has a default. -/
def orElse? {α : Type} (read : Data → Option α) (default : α) : Option Data → Option α
  | some d => read d
  | none => some default

/-- Reads a field that has to be there. -/
def required? {α : Type} (read : Data → Option α) (field : Option Data) : Option α :=
  field.bind read

/-- The value under a key of a record, the first if there are several. -/
def get? (key : String) : Data → Option Data
  | record entries => (entries.find? fun e => text? e.1 = some key).map Prod.snd
  | _ => none

/-- A part of a document that is a record. -/
def isRecord : Data → Bool
  | record _ => true
  | _ => false

end Data

end SidecarAgent.Document
