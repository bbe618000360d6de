import SidecarAgent.Document.Data
import SidecarAgent.Text.Integer

/-!
# YAML scalars

What the text of a scalar can be read as.  Every scalar is a text; one that is written plainly may
also be an integer or say that there is no value.  A tag decides instead of the form where there is
one.
-/

namespace SidecarAgent.Yaml

open Document (Scalar)

/-! ## Integers -/

/-- The value of a digit in a base of at most sixteen. -/
def baseDigit? (base : Nat) (c : Char) : Option Nat :=
  let value :=
    if '0' ≤ c ∧ c ≤ '9' then some (c.toNat - '0'.toNat)
    else if 'a' ≤ c ∧ c ≤ 'f' then some (c.toNat - 'a'.toNat + 10)
    else if 'A' ≤ c ∧ c ≤ 'F' then some (c.toNat - 'A'.toNat + 10)
    else none
  value.filter fun d => d < base

/-- The number that a run of digits in a base writes, after the digits already read. -/
def baseValue? (base soFar : Nat) : List Char → Option Nat
  | [] => some soFar
  | c :: rest =>
    match baseDigit? base c with
    | some d => baseValue? base (base * soFar + d) rest
    | none => none

/-- The number that a nonempty run of digits in a base writes. -/
def baseNatural? (base : Nat) (digits : List Char) : Option Nat :=
  if digits.isEmpty then none else baseValue? base 0 digits

/-- The base that a text declares, and what follows the declaration. -/
def declaredBase? : List Char → Option (Nat × List Char)
  | '0' :: 'x' :: rest => some (16, rest)
  | '0' :: 'o' :: rest => some (8, rest)
  | '0' :: 'b' :: rest => some (2, rest)
  | _ => none

/-- A text without the plus sign that it may begin with. -/
def skipPlus : List Char → List Char
  | '+' :: rest => rest
  | cs => cs

/-- Reads an integer in a declared base: any plus signs before the declaration, one behind it, or a
minus sign before it. -/
def basedInteger? (cs : List Char) : Option Int :=
  match cs with
  | '-' :: unsigned =>
    match declaredBase? unsigned with
    | some (base, digits) => (baseNatural? base digits).map fun n => - Int.ofNat n
    | none => none
  | _ =>
    match declaredBase? (cs.dropWhile (· = '+')) with
    | some (base, digits) => (baseNatural? base (skipPlus digits)).map Int.ofNat
    | none => none

/-- Several digits of which the first is zero are no number. -/
def isPadded (digits : List Char) : Bool :=
  1 < digits.length && digits.head? = some '0' && digits.all Char.isDigit

/-- A text without the sign that it may begin with. -/
def skipSign : List Char → List Char
  | '+' :: rest => rest
  | '-' :: rest => rest
  | cs => cs

/-- The integer that a plain scalar writes. -/
def plainInteger? (cs : List Char) : Option Int :=
  match basedInteger? cs with
  | some n => some n
  | none => if isPadded (skipSign cs) then none else Text.integer? cs

/-! ## Scalars -/

/-- A plain scalar that says that there is no value. -/
def isNullText (text : String) : Bool := text = "~" || text = "null"

/-- What a scalar is, by its form, its tag and its text. -/
def scalarOf (plain : Bool) (tag : Option (String × String)) (text : String) : Scalar :=
  match tag with
  | some ("!!", "int") => { text := some text, integer := Text.integer? text.toList }
  | some ("!!", "null") => { text := some text, isNull := plain && isNullText text }
  | some _ => { text := some text }
  | none =>
    if plain then
      { text := some text, integer := plainInteger? text.toList, isNull := isNullText text }
    else { text := some text }

/-- What stands where nothing is written. -/
def emptyScalar : Scalar := scalarOf true none "~"

end SidecarAgent.Yaml
