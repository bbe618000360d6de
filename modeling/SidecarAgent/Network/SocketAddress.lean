/-!
# Socket addresses

A socket address is written as an address of four decimal numbers, or one of eight hexadecimal
groups between brackets, and a port behind a colon.  The readers below give what follows the part
they read.
-/

namespace SidecarAgent.Network

/-- The value of a digit in a base of at most sixteen. -/
def digit? (base : Nat) (c : Char) : Option Nat :=
  let value :=
    if '0' ≤ c ∧ c ≤ '9' then some (c.toNat - '0'.toNat)
    else if 'a' ≤ c ∧ c ≤ 'f' then some (c.toNat - 'a'.toNat + 10)
    else if 'A' ≤ c ∧ c ≤ 'F' then some (c.toNat - 'A'.toNat + 10)
    else none
  value.filter fun d => d < base

/-- The digits in a base that a text begins with, as values, and what follows. -/
def digitValues (base : Nat) : List Char → List Nat × List Char
  | [] => ([], [])
  | c :: rest =>
    match digit? base c with
    | some d =>
      let (ds, rest) := digitValues base rest
      (d :: ds, rest)
    | none => ([], c :: rest)

/-- Skips a number below a bound. -/
def number? (base bound : Nat) (cs : List Char) : Option (List Char) :=
  let (ds, rest) := digitValues base cs
  if ds.isEmpty || bound ≤ ds.foldl (fun n d => base * n + d) 0 then none else some rest

/-- Skips a byte in decimal, which has three digits at most and no zero in front. -/
def octet? (cs : List Char) : Option (List Char) :=
  let (ds, rest) := digitValues 10 cs
  if ds.isEmpty || 3 < ds.length || (1 < ds.length && ds.head? = some 0)
      || 256 ≤ ds.foldl (fun n d => 10 * n + d) 0 then none
  else some rest

/-- Skips a group of up to four hexadecimal digits. -/
def group? (cs : List Char) : Option (List Char) :=
  let (ds, rest) := digitValues 16 cs
  if ds.isEmpty || 4 < ds.length then none else some rest

/-- Skips a character. -/
def char? (c : Char) : List Char → Option (List Char)
  | d :: rest => if d = c then some rest else none
  | [] => none

/-- Skips an address of four numbers. -/
def ipv4? (cs : List Char) : Option (List Char) := do
  let cs ← octet? cs
  let cs ← octet? (← char? '.' cs)
  let cs ← octet? (← char? '.' cs)
  octet? (← char? '.' cs)

/-- Skips what comes before the first of some groups: nothing, or a colon where groups precede. -/
def separator? (first : Bool) (cs : List Char) : Option (List Char) :=
  if first then some cs else char? ':' cs

/-- Skips groups, up to a number of them, of which the last two may be written as an address of four
numbers.  Gives the number of groups and whether they end in such an address. -/
def groups : (left : Nat) → (first : Bool) → List Char → Nat × Bool × List Char
  | 0, _, cs => (0, false, cs)
  | left + 1, first, cs =>
    let embedded := if left = 0 then none else (separator? first cs).bind ipv4?
    match embedded with
    | some rest => (2, true, rest)
    | none =>
      match (separator? first cs).bind group? with
      | none => (0, false, cs)
      | some rest =>
        let (n, ended, rest) := groups left false rest
        (n + 1, ended, rest)

/-- Skips an address of eight groups, or of fewer where a double colon stands for the rest. -/
def ipv6? (cs : List Char) : Option (List Char) := do
  let (count, ended, rest) := groups 8 true cs
  if count = 8 then some rest
  else if ended then none
  else
    let rest ← char? ':' (← char? ':' rest)
    some (groups (7 - count) true rest).2.2

/-- Skips the number of a scope, if one is given. -/
def scope? : List Char → Option (List Char)
  | '%' :: rest => number? 10 UInt32.size rest
  | cs => some cs

/-- Skips a port behind a colon. -/
def port? (cs : List Char) : Option (List Char) := do number? 10 UInt16.size (← char? ':' cs)

/-- Skips an address of eight groups between brackets. -/
def bracketed? (cs : List Char) : Option (List Char) := do
  char? ']' (← scope? (← ipv6? (← char? '[' cs)))

/-- A text is a socket address. -/
def isSocketAddress (text : String) : Bool :=
  let cs := text.toList
  ((ipv4? cs).bind port?).or ((bracketed? cs).bind port?) = some []

end SidecarAgent.Network
