/-!
# Reading integers

An integer is written as decimal digits after an optional sign; nothing else, no blank and no
separator, may stand in it.  A reader names the range that it accepts.
-/

namespace SidecarAgent.Text

/-- The value of a decimal digit. -/
def digitValue? (c : Char) : Option Nat :=
  if '0' ≤ c ∧ c ≤ '9' then some (c.toNat - '0'.toNat) else none

/-- The number that a run of decimal digits writes, after the digits already read. -/
def digitsValue? (soFar : Nat) : List Char → Option Nat
  | [] => some soFar
  | c :: rest =>
    match digitValue? c with
    | some d => digitsValue? (10 * soFar + d) rest
    | none => none

/-- The number that a nonempty run of decimal digits writes. -/
def natural? (digits : List Char) : Option Nat :=
  if digits.isEmpty then none else digitsValue? 0 digits

/-- A natural number below `bound`, with an optional plus sign. -/
def naturalBelow? (bound : Nat) (text : List Char) : Option Nat :=
  let digits := match text with
    | '+' :: rest => rest
    | _ => text
  match natural? digits with
  | some n => if n < bound then some n else none
  | none => none

/-- The integer that a text writes, with an optional sign. -/
def integer? : List Char → Option Int
  | '+' :: rest => (natural? rest).map Int.ofNat
  | '-' :: rest => (natural? rest).map fun n => - Int.ofNat n
  | digits => (natural? digits).map Int.ofNat

/-- The range of a signed 32-bit integer. -/
def FitsInt32 (n : Int) : Prop := -2147483648 ≤ n ∧ n ≤ 2147483647

instance (n : Int) : Decidable (FitsInt32 n) := inferInstanceAs (Decidable (_ ∧ _))

/-- The signed 32-bit integer that a text writes. -/
def int32? (text : String) : Option Int :=
  match integer? text.toList with
  | some n => if FitsInt32 n then some n else none
  | none => none

end SidecarAgent.Text
