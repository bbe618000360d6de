import SidecarAgent.Wire.Field

/-!
# Fields that are passed over

A message has fields of which nothing is kept.  They have to be laid out as the message says all the
same: a text has to be UTF-8, and what is a message in turn has to be made of fields.  Of those
nothing more is asked, unless a schema says how they are laid out.
-/

namespace SidecarAgent.Wire

/-- Reads a text field, and refuses any other layout. -/
def textPayload? : Payload → Option String
  | .block bytes => text? bytes
  | _ => none

/-- Reads a numeric field, and refuses any other layout. -/
def numberPayload? : Payload → Option Nat
  | .varint n => some n
  | _ => none

/-- Reads a field that is itself a message, into what is already known of it. -/
def partPayload? {α : Type} (limit : Nat) (merge : α → Field → Option α) (start : α) :
    Payload → Option α
  | .block bytes => message? limit merge start bytes
  | _ => none

/-- Reads a part of which nothing is kept. -/
def passPart? (limit : Nat) (payload : Payload) : Option Unit :=
  partPayload? (limit - 1) (fun _ _ => some ()) () payload

/-- The numbers of the fields of a message of which nothing is kept, by what they hold. -/
structure Schema where
  numbers : List Nat := []
  texts : List Nat := []
  parts : List Nat := []

namespace Schema

/-- A field is laid out as the message says.  One that the message does not have may be laid out in
any way. -/
def admits (schema : Schema) (limit : Nat) (f : Field) : Bool :=
  if f.number ∈ schema.numbers then (numberPayload? f.payload).isSome
  else if f.number ∈ schema.texts then (textPayload? f.payload).isSome
  else if f.number ∈ schema.parts then (passPart? limit f.payload).isSome
  else true

/-- Passes a field over. -/
def pass? {α : Type} (schema : Schema) (limit : Nat) (a : α) (f : Field) : Option α :=
  if schema.admits limit f then some a else none

/-- Passes over a part whose own fields are laid out as a schema says. -/
def passWithin? (schema : Schema) (limit : Nat) (payload : Payload) : Option Unit :=
  partPayload? (limit - 1) (schema.pass? (limit - 1)) () payload

end Schema

end SidecarAgent.Wire
