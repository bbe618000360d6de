import SidecarAgent.Discovery.Error
import SidecarAgent.Discovery.Message
import SidecarAgent.Discovery.Node
import SidecarAgent.Telemetry.Note

/-!
# Discovery exchanges

An exchange with the control plane is one request and one outcome.  For each resource type the
agent keeps a cursor, the version and nonce of the last response of that type that it could decode
in full; a request carries its type's cursor, and only a response that decodes moves it.
-/

namespace SidecarAgent.Discovery

open Time (Duration)
open Wire (Bytes)
open Telemetry (Metric Note)

/-! ## Cursors -/

/-- The version and nonce of a response. -/
structure Cursor where
  version : String := ""
  nonce : String := ""
  deriving DecidableEq, Repr

/-- The cursor of every resource type. -/
abbrev Cursors := ResourceType → Cursor

/-- The cursors of an agent that has seen no response yet. -/
def Cursors.start : Cursors := fun _ => {}

/-- Moves the cursor of one type. -/
def Cursors.set (cursors : Cursors) (t : ResourceType) (cursor : Cursor) : Cursors :=
  fun u => if u = t then cursor else cursors u

/-- A moved cursor is where it was moved to. -/
@[simp] theorem Cursors.set_self (cursors : Cursors) (t : ResourceType) (cursor : Cursor) :
    cursors.set t cursor t = cursor := by simp [Cursors.set]

/-- Moving the cursor of one type leaves those of the others. -/
theorem Cursors.set_of_ne (cursors : Cursors) {t u : ResourceType} (cursor : Cursor) (h : u ≠ t) :
    cursors.set t cursor u = cursors u := by simp [Cursors.set, h]

/-! ## Requests and responses -/

/-- A request for the resources of a type: those with the given names, or all of them. -/
structure Request where
  type : ResourceType
  cursor : Cursor
  names : List String
  node : Node
  deriving DecidableEq, Repr

/-- A resource on the wire, under the URL of its type. -/
structure PackedResource where
  typeUrl : String
  content : Bytes
  deriving DecidableEq, Repr

/-- A response.  Its own type URL may be left empty. -/
structure Response where
  version : String
  nonce : String
  typeUrl : String
  resources : List PackedResource
  deriving DecidableEq, Repr

/-- How an exchange ended. -/
inductive Outcome where
  | timedOut (limit : Duration)
  | failed (status : Status)
  | closed
  | answered (response : Response)
  deriving DecidableEq

/-- The request that goes out for a type. -/
def Request.make (cursors : Cursors) (node : Node) (t : ResourceType) (names : List String) :
    Request where
  type := t
  cursor := cursors t
  names := names
  node := node

/-! ## Decoding -/

/-- Decodes one resource of a response; its type is checked before its content. -/
def PackedResource.unpack {α : Type} (t : ResourceType) (decode? : Bytes → Option α)
    (resource : PackedResource) : Except DiscoveryError α :=
  if resource.typeUrl = t.typeUrl then
    match decode? resource.content with
    | some a => .ok a
    | none => .error (.decode t)
  else .error (.typeMismatch t.typeUrl resource.typeUrl)

/-- Decodes resources in order, up to the first that cannot be decoded. -/
def unpackAll {α : Type} (t : ResourceType) (decode? : Bytes → Option α) :
    List PackedResource → Except DiscoveryError (List α)
  | [] => .ok []
  | resource :: rest =>
    match resource.unpack t decode? with
    | .error e => .error e
    | .ok a =>
      match unpackAll t decode? rest with
      | .error e => .error e
      | .ok as => .ok (a :: as)

/-- Decodes a response, all of it or nothing. -/
def Response.unpack {α : Type} (t : ResourceType) (decode? : Bytes → Option α)
    (response : Response) : Except DiscoveryError (List α) :=
  if response.typeUrl ≠ "" ∧ response.typeUrl ≠ t.typeUrl then
    .error (.typeMismatch t.typeUrl response.typeUrl)
  else unpackAll t decode? response.resources

/-- The resources that an outcome brings. -/
def Outcome.resources {α : Type} (t : ResourceType) (decode? : Bytes → Option α) :
    Outcome → Except DiscoveryError (List α)
  | .timedOut limit => .error (.timeout t limit)
  | .failed status => .error (.transport status)
  | .closed => .error (.streamClosed t)
  | .answered response => response.unpack t decode?

/-- The cursors after an outcome: a response that decodes moves the cursor of its type. -/
def Outcome.advance {α : Type} (t : ResourceType) (decode? : Bytes → Option α) (cursors : Cursors)
    (outcome : Outcome) : Cursors :=
  match outcome, outcome.resources t decode? with
  | .answered response, .ok _ => cursors.set t ⟨response.version, response.nonce⟩
  | _, _ => cursors

/-- What is noted when a request for a type goes out. -/
def sendNotes (t : ResourceType) : List Note := [.measure (.touch (.requestTime t))]

/-- What is noted when a request for a type has come to its end. -/
def receiveNotes (t : ResourceType) (succeeded : Bool) : List Note :=
  [.count (.requests t succeeded), .count (.requestTime t)]

end SidecarAgent.Discovery
