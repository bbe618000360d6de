import SidecarAgent.KeyMap
import SidecarAgent.Config.ChangeKind
import SidecarAgent.Egress.Rule
import SidecarAgent.Endpoint.Subset

/-!
# Configuration values and events

Configuration is a map from keys to values.  A source that has changed reports it as events, one for
each key.
-/

namespace SidecarAgent.Config

/-- A configuration value: what it means is up to those who care about its kind. -/
inductive Value where
  | egressRules (rules : List Egress.Rule)
  | endpointSubset (subset : Endpoint.Subset)
  | raw (bytes : List UInt8)
  deriving DecidableEq, Repr

/-- The full configuration of a source, by key. -/
abbrev Snapshot := KeyMap Value

/-- What happened to a key.  A deletion carries no value. -/
inductive Change where
  | create (value : Value)
  | update (value : Value)
  | delete
  deriving DecidableEq, Repr

namespace Change

/-- The kind of a change. -/
def kind : Change → ChangeKind
  | create _ => .create
  | update _ => .update
  | delete => .delete

/-- The new value, if there is one. -/
def value? : Change → Option Value
  | create v => some v
  | update v => some v
  | delete => none

/-- A map after a change to one of its keys. -/
def apply {α : Type} (change : Change) (key : String) (f : Value → α) (m : KeyMap α) : KeyMap α :=
  match change.value? with
  | some v => m.insert key (f v)
  | none => m.erase key

end Change

/-- A change to a key, attributed to the source that made it. -/
structure Event where
  source : String
  key : String
  change : Change
  deriving DecidableEq, Repr

/-- A snapshot after an event. -/
def Event.replay (snapshot : Snapshot) (e : Event) : Snapshot := e.change.apply e.key id snapshot

end SidecarAgent.Config
