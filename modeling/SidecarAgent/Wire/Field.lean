/-!
# Messages on the wire

A message is a sequence of numbered fields.  Each field starts with a key, which gives its number
and how its payload is laid out; numbers are written in groups of seven bits, the lowest first.
`fields?` reads a whole message, `Field.encode` writes one field.
-/

namespace SidecarAgent.Wire

/-- A sequence of bytes. -/
abbrev Bytes := List UInt8

/-- The payload of a field, by layout.  What a group holds is never asked for. -/
inductive Payload where
  | varint (n : Nat)
  | fixed64 (bytes : Bytes)
  | block (bytes : Bytes)
  | group
  | fixed32 (bytes : Bytes)
  deriving DecidableEq, Repr

/-- A numbered field of a message. -/
structure Field where
  number : Nat
  payload : Payload
  deriving DecidableEq, Repr

/-- How deep groups and messages may nest. -/
def nestingLimit : Nat := 100

/-! ## Reading -/

/-- Reads a number of at most `left` more bytes, given the value of the bytes before and the weight
of the next one.  The number has to fit 64 bits. -/
def varintFrom? : (left weight value : Nat) → Bytes → Option (Nat × Bytes)
  | 0, _, _, _ => none
  | _ + 1, _, _, [] => none
  | left + 1, weight, value, b :: rest =>
    if b < 128 then
      if value + weight * b.toNat < UInt64.size then some (value + weight * b.toNat, rest)
      else none
    else varintFrom? left (128 * weight) (value + weight * (b.toNat - 128)) rest

/-- Reads a number of at most ten bytes. -/
def varint? (bytes : Bytes) : Option (Nat × Bytes) := varintFrom? 10 1 0 bytes

/-- Takes the given number of bytes, all of which must be there. -/
def take? (count : Nat) (bytes : Bytes) : Option (Bytes × Bytes) :=
  if count ≤ bytes.length then some (bytes.take count, bytes.drop count) else none

/-- Reads a key: a field number, which is positive, and a layout. -/
def key? (bytes : Bytes) : Option (Nat × Nat × Bytes) :=
  match varint? bytes with
  | some (key, rest) =>
    if key < UInt32.size ∧ 8 ≤ key then some (key / 8, key % 8, rest) else none
  | none => none

/-- Reads a payload of one of the layouts without nesting. -/
def flatPayload? (layout : Nat) (bytes : Bytes) : Option (Payload × Bytes) :=
  match layout with
  | 0 => (varint? bytes).map fun r => (.varint r.1, r.2)
  | 1 => (take? 8 bytes).map fun r => (.fixed64 r.1, r.2)
  | 2 =>
    match varint? bytes with
    | some (count, rest) => (take? count rest).map fun r => (.block r.1, r.2)
    | none => none
  | 5 => (take? 4 bytes).map fun r => (.fixed32 r.1, r.2)
  | _ => none

/-- Skips the rest of the groups that are open, the innermost first.  A field may stand in at most
`limit` open groups less one.  Every step reads a key, so the number of bytes bounds the steps. -/
def skipGroups? (limit : Nat) : (steps : Nat) → (openGroups : List Nat) → Bytes → Option Bytes
  | _, [], bytes => some bytes
  | 0, _ :: _, _ => none
  | steps + 1, g :: gs, bytes =>
    match key? bytes with
    | none => none
    | some (number, layout, rest) =>
      if layout = 4 then
        if number = g then skipGroups? limit steps gs rest else none
      else if limit ≤ gs.length + 1 then none
      else if layout = 3 then skipGroups? limit steps (number :: g :: gs) rest
      else
        match flatPayload? layout rest with
        | some (_, rest) => skipGroups? limit steps (g :: gs) rest
        | none => none

/-- Reads one field. -/
def field? (limit : Nat) (bytes : Bytes) : Option (Field × Bytes) :=
  match key? bytes with
  | none => none
  | some (number, layout, rest) =>
    if layout = 3 then
      if limit = 0 then none
      else (skipGroups? limit rest.length [number] rest).map fun r => (⟨number, .group⟩, r)
    else (flatPayload? layout rest).map fun r => (⟨number, r.1⟩, r.2)

/-- Reads at most `steps` fields that fill the bytes. -/
def fieldsWithin? (limit : Nat) : (steps : Nat) → Bytes → Option (List Field)
  | _, [] => some []
  | 0, _ :: _ => none
  | steps + 1, b :: bs =>
    match field? limit (b :: bs) with
    | some (f, rest) => (fieldsWithin? limit steps rest).map (f :: ·)
    | none => none

/-- The fields of a message.  Every field takes a byte at least, so their number is bounded by the
length of the message. -/
def fields? (limit : Nat) (bytes : Bytes) : Option (List Field) :=
  fieldsWithin? limit bytes.length bytes

/-- A text field's content, which must be UTF-8. -/
def text? (bytes : Bytes) : Option String := String.fromUTF8? ⟨bytes.toArray⟩

/-- The low 32 bits of a number, read as a signed integer. -/
def signed32 (n : Nat) : Int := (BitVec.ofNat 32 n).toInt

/-- The low 32 bits of a number. -/
def unsigned32 (n : Nat) : Nat := (BitVec.ofNat 32 n).toNat

/-- Reads a message by merging its fields, one by one, into a start value. -/
def message? {α : Type} (limit : Nat) (merge : α → Field → Option α) (start : α) (bytes : Bytes) :
    Option α :=
  match fields? limit bytes with
  | some fs => fs.foldlM merge start
  | none => none

/-! ## Writing -/

/-- The bytes of a number, of which `steps` at most are followed by another. -/
def varintWithin : (steps : Nat) → Nat → Bytes
  | 0, n => [UInt8.ofNat (n % 128)]
  | steps + 1, n =>
    if n < 128 then [UInt8.ofNat n] else UInt8.ofNat (n % 128 + 128) :: varintWithin steps (n / 128)

/-- The bytes of a number below `2 ^ 64`. -/
def varintBytes (n : Nat) : Bytes := varintWithin 9 n

/-- A block field: its key, its length and its content. -/
def blockField (number : Nat) (content : Bytes) : Bytes :=
  varintBytes (8 * number + 2) ++ varintBytes content.length ++ content

/-- A numeric field. -/
def varintField (number n : Nat) : Bytes := varintBytes (8 * number) ++ varintBytes n

/-- The bytes of a text. -/
def textBytes (s : String) : Bytes := s.toUTF8.toList

/-- A text field that is left out when it is empty. -/
def textField (number : Nat) (s : String) : Bytes :=
  if s = "" then [] else blockField number (textBytes s)

/-- A signed 32-bit integer as a 64-bit number. -/
def unsigned64 (n : Int) : Nat := (BitVec.ofInt 64 n).toNat

end SidecarAgent.Wire
