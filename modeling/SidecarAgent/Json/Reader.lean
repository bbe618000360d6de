import SidecarAgent.Document.Data

/-!
# Reading JSON

`parse?` reads a JSON text into a document.  A text in it that pairs its surrogates wrongly is
sealed: it can be skipped, but not read.  Numbers are read where they are integers.

Nesting costs no recursion: the parts that are not complete yet stand in a list, the innermost
first.
-/

namespace SidecarAgent.Json

open Document (Data Scalar)

/-! ## Scalars -/

/-- A blank character. -/
def isBlank (c : Char) : Bool := c = ' ' || c = '\n' || c = '\t' || c = '\r'

/-- A text without the blanks that it begins with. -/
def skipBlanks (cs : List Char) : List Char := cs.dropWhile isBlank

/-- The value of a hexadecimal digit. -/
def hexValue? (c : Char) : Option Nat :=
  if '0' ≤ c ∧ c ≤ '9' then some (c.toNat - '0'.toNat)
  else if 'a' ≤ c ∧ c ≤ 'f' then some (c.toNat - 'a'.toNat + 10)
  else if 'A' ≤ c ∧ c ≤ 'F' then some (c.toNat - 'A'.toNat + 10)
  else none

/-- The value of four hexadecimal digits. -/
def hex4? (a b c d : Char) : Option Nat :=
  match hexValue? a, hexValue? b, hexValue? c, hexValue? d with
  | some a, some b, some c, some d => some (((a * 16 + b) * 16 + c) * 16 + d)
  | _, _, _, _ => none

/-- The character that a one-letter escape stands for. -/
def escape? (c : Char) : Option Char :=
  match c with
  | '"' => some '"'
  | '\\' => some '\\'
  | '/' => some '/'
  | 'b' => some '\x08'
  | 'f' => some '\x0c'
  | 'n' => some '\n'
  | 'r' => some '\r'
  | 't' => some '\t'
  | _ => none

/-- A unit of text in quotes: a character, or a 16-bit unit written by number. -/
inductive Piece where
  | char (c : Char)
  | coded (n : Nat)

/-- The pieces of a text up to its closing quote, and what follows. -/
def pieces? : List Char → Option (List Piece × List Char)
  | [] => none
  | '"' :: rest => some ([], rest)
  | '\\' :: 'u' :: a :: b :: c :: d :: rest =>
    match hex4? a b c d, pieces? rest with
    | some n, some (ps, rest) => some (.coded n :: ps, rest)
    | _, _ => none
  | '\\' :: c :: rest =>
    match escape? c, pieces? rest with
    | some e, some (ps, rest) => some (.char e :: ps, rest)
    | _, _ => none
  | c :: rest =>
    if c.toNat < 32 then none
    else (pieces? rest).map fun r => (.char c :: r.1, r.2)

/-- The text of some pieces, if every surrogate among them has its partner. -/
def joinPieces? : List Piece → Option (List Char)
  | [] => some []
  | .char c :: rest => (joinPieces? rest).map (c :: ·)
  | .coded high :: .coded low :: rest =>
    if 0xD800 ≤ high ∧ high < 0xDC00 then
      if 0xDC00 ≤ low ∧ low < 0xE000 then
        (joinPieces? rest).map
          (Char.ofNat (0x10000 + (high - 0xD800) * 0x400 + (low - 0xDC00)) :: ·)
      else none
    else if 0xDC00 ≤ high ∧ high < 0xE000 then none
    else (joinPieces? (.coded low :: rest)).map (Char.ofNat high :: ·)
  | .coded n :: rest =>
    if 0xD800 ≤ n ∧ n < 0xE000 then none
    else (joinPieces? rest).map (Char.ofNat n :: ·)

/-- The text that pieces make, sealed where a surrogate stands alone. -/
def textOf (ps : List Piece) : Data :=
  match joinPieces? ps with
  | some cs => .scalar { text := some (String.ofList cs) }
  | none => .sealed

/-- The digits that a text begins with, and what follows. -/
def digits (cs : List Char) : List Char × List Char :=
  (cs.takeWhile Char.isDigit, cs.dropWhile Char.isDigit)

/-- Skips the fraction of a number.  The flag says whether there is one. -/
def fraction? : List Char → Option (Bool × List Char)
  | '.' :: rest =>
    let (ds, rest) := digits rest
    if ds.isEmpty then none else some (true, rest)
  | cs => some (false, cs)

/-- Skips the exponent of a number.  The flag says whether there is one. -/
def exponent? : List Char → Option (Bool × List Char)
  | c :: rest =>
    if c = 'e' ∨ c = 'E' then
      let unsigned := match rest with
        | '+' :: r => r
        | '-' :: r => r
        | r => r
      let (ds, rest) := digits unsigned
      if ds.isEmpty then none else some (true, rest)
    else some (false, c :: rest)
  | [] => some (false, [])

/-- Reads a number.  It is an integer when it has neither fraction nor exponent and is not minus
zero. -/
def number? (negative : Bool) (cs : List Char) : Option (Data × List Char) :=
  let (ds, rest) := digits cs
  if ds.isEmpty || (ds.length > 1 && ds.head? = some '0') then none
  else
    match fraction? rest with
    | none => none
    | some (hasFraction, rest) =>
      match exponent? rest with
      | none => none
      | some (hasExponent, rest) =>
        let value : Option Int := (Text.natural? ds).map fun n =>
          if negative then - Int.ofNat n else Int.ofNat n
        let integer := if hasFraction || hasExponent then none
          else value.filter fun n => !(negative && n = 0)
        some (.scalar { integer := integer }, rest)

/-! ## Documents -/

/-- A part that is not complete yet: a list with its items so far, the last first, or a record with
its entries so far, the last first, and the key of the next. -/
inductive Frame where
  | items (before : List Data)
  | entries (before : List (Data × Data)) (key : Data)

/-- What a reader expects next: a value, or what may follow one. -/
inductive Expecting where
  | value
  | afterValue (d : Data)

/-- Reads a key and the colon behind it. -/
def key? (cs : List Char) : Option (Data × List Char) :=
  match skipBlanks cs with
  | '"' :: rest =>
    match pieces? rest with
    | some (ps, rest) =>
      match joinPieces? ps, skipBlanks rest with
      | some key, ':' :: rest => some (.scalar { text := some (String.ofList key) }, rest)
      | _, _ => none
    | none => none
  | _ => none

/-- Reads a word that stands for a value. -/
def word? (cs : List Char) : Option (Data × List Char) :=
  if ['n', 'u', 'l', 'l'].isPrefixOf cs then some (.scalar { isNull := true }, cs.drop 4)
  else if ['t', 'r', 'u', 'e'].isPrefixOf cs then some (.scalar {}, cs.drop 4)
  else if ['f', 'a', 'l', 's', 'e'].isPrefixOf cs then some (.scalar {}, cs.drop 5)
  else none

/-- Reads a scalar that starts with the given character. -/
def scalar? (c : Char) (rest : List Char) : Option (Data × List Char) :=
  match c with
  | '"' => (pieces? rest).map fun r => (textOf r.1, r.2)
  | '-' => number? true rest
  | _ => if c.isDigit then number? false (c :: rest) else word? (c :: rest)

/-- Reads on, given what is expected and the parts that are open.  Every two steps take a character
at least, so twice the length of the text bounds the steps. -/
def readWithin? : (steps : Nat) → Expecting → List Frame → List Char → Option Data
  | 0, _, _, _ => none
  | steps + 1, .value, frames, cs =>
    match skipBlanks cs with
    | [] => none
    | '[' :: rest =>
      match skipBlanks rest with
      | ']' :: rest => readWithin? steps (.afterValue (.list [])) frames rest
      | rest => readWithin? steps .value (.items [] :: frames) rest
    | '\x7b' :: rest =>
      match skipBlanks rest with
      | '\x7d' :: rest => readWithin? steps (.afterValue (.record [])) frames rest
      | rest =>
        match key? rest with
        | some (key, rest) => readWithin? steps .value (.entries [] key :: frames) rest
        | none => none
    | c :: rest =>
      match scalar? c rest with
      | some (d, rest) => readWithin? steps (.afterValue d) frames rest
      | none => none
  | steps + 1, .afterValue d, frames, cs =>
    match frames, skipBlanks cs with
    | [], [] => some d
    | [], _ :: _ => none
    | .items before :: outer, ',' :: rest =>
      readWithin? steps .value (.items (d :: before) :: outer) rest
    | .items before :: outer, ']' :: rest =>
      readWithin? steps (.afterValue (.list (d :: before).reverse)) outer rest
    | .entries before key :: outer, ',' :: rest =>
      match key? rest with
      | some (next, rest) =>
        readWithin? steps .value (.entries ((key, d) :: before) next :: outer) rest
      | none => none
    | .entries before key :: outer, '\x7d' :: rest =>
      readWithin? steps (.afterValue (.record ((key, d) :: before).reverse)) outer rest
    | _, _ => none

/-- Reads a JSON text, which has to hold one value and nothing else. -/
def parse? (text : String) : Option Data :=
  let cs := text.toList
  readWithin? (2 * cs.length + 2) .value [] cs

end SidecarAgent.Json
