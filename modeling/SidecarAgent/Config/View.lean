import SidecarAgent.Config.Diff

/-!
# The merged view of several sources

A view keeps the last snapshot of every registered source and, for every key, the value of the first
source that has it.  Sources stand in the order of their priorities, the lowest first, and in the
order of their registration among equals.  The merged entries change with the snapshots: one key at
a time (`remergeKey`) or all at once (`remerge`), and either way what changed comes back as events.
-/

namespace SidecarAgent.Config

universe u

/-- A registered source: its name and priority, a handle to ask it by, and its last snapshot. -/
structure Registered (ι : Type u) where
  name : String
  priority : Int
  source : ι
  snapshot : Snapshot

/-- A value with the name of the source it comes from. -/
structure Owned where
  source : String
  value : Value
  deriving DecidableEq, Repr

/-- Registered sources, and their entries merged. -/
structure View (ι : Type u) where
  sources : List (Registered ι) := []
  merged : KeyMap Owned := ∅

namespace View

variable {ι : Type u}

/-! ## Looking up -/

/-- What a source has under a key. -/
def Registered.owned? (r : Registered ι) (key : String) : Option Owned :=
  (r.snapshot.get? key).map fun v => ⟨r.name, v⟩

/-- What the first source that has a key has there. -/
def resolve (sources : List (Registered ι)) (key : String) : Option Owned :=
  sources.findSome? fun r => Registered.owned? r key

/-- The current value of a key. -/
def get? (v : View ι) (key : String) : Option Value := (v.merged.get? key).map Owned.value

/-- The name of the source that a key belongs to. -/
def owner? (v : View ι) (key : String) : Option String := (v.merged.get? key).map Owned.source

/-- The merged values. -/
def values (v : View ι) : Snapshot := v.merged.map Owned.value

/-! ## Merging -/

/-- The change from one owned value to another, attributed to the owner that it is due to. -/
def transition? (key : String) (before after : Option Owned) : Option Event :=
  match before, after with
  | none, none => none
  | some b, none => some ⟨b.source, key, .delete⟩
  | none, some a => some ⟨a.source, key, .create a.value⟩
  | some b, some a => if b.value = a.value then none else some ⟨a.source, key, .update a.value⟩

/-- Sets or removes the entry of a key. -/
def setOwned (m : KeyMap Owned) (key : String) : Option Owned → KeyMap Owned
  | some o => m.insert key o
  | none => m.erase key

/-- Resolves one key again, and reports its change if it has one. -/
def remergeKey (v : View ι) (key : String) : View ι × Option Event :=
  let after := resolve v.sources key
  ({ v with merged := setOwned v.merged key after }, transition? key (v.merged.get? key) after)

/-- Resolves some keys again, one after another, and reports their changes. -/
def remergeKeys (v : View ι) : List String → View ι × List Event
  | [] => (v, [])
  | key :: rest =>
    let (v, event) := v.remergeKey key
    let (v, events) := remergeKeys v rest
    (v, event.toList ++ events)

/-- Adds the entries of a source whose keys no source before it has. -/
def addMissing (m : KeyMap Owned) (r : Registered ι) : KeyMap Owned :=
  r.snapshot.entries.foldl
    (fun m e => if m.contains e.1 then m else m.insert e.1 ⟨r.name, e.2⟩) m

/-- The entries of some sources, merged. -/
def mergeAll (sources : List (Registered ι)) : KeyMap Owned := sources.foldl addMissing ∅

/-- The event for a change between two sets of merged entries. -/
def attribute? (before after : KeyMap Owned) (c : String × Change) : Option Event :=
  let owner := match c.2 with
    | .delete => before.get? c.1
    | _ => after.get? c.1
  owner.map fun o => ⟨o.source, c.1, c.2⟩

/-- Resolves every key again, and reports what changed. -/
def remerge (v : View ι) : View ι × List Event :=
  let after := mergeAll v.sources
  let events := (changes v.values (after.map Owned.value)).filterMap (attribute? v.merged after)
  ({ v with merged := after }, events)

/-! ## Sources -/

/-- Puts a source behind every source that goes before it. -/
def insertSource (r : Registered ι) (sources : List (Registered ι)) : List (Registered ι) :=
  sources.takeWhile (fun s => s.priority ≤ r.priority) ++
    r :: sources.dropWhile fun s => s.priority ≤ r.priority

/-- A view with one more source, before any merging. -/
def place (v : View ι) (r : Registered ι) : View ι := { v with sources := insertSource r v.sources }

/-- Registers a source with its first snapshot, and reports what that changes. -/
def register (v : View ι) (r : Registered ι) : View ι × List Event :=
  (v.place r).remergeKeys r.snapshot.keys

/-- Changes the first source of a name. -/
def modifyFirst (name : String) (f : Registered ι → Registered ι) :
    List (Registered ι) → List (Registered ι)
  | [] => []
  | r :: rest => if r.name = name then f r :: rest else r :: modifyFirst name f rest

/-- A name is known when a source is registered under it. -/
def knows (v : View ι) (name : String) : Bool := v.sources.any fun r => r.name = name

/-- Changes the snapshot of the first source of a name, without merging. -/
def modifySnapshot (v : View ι) (name : String) (f : Snapshot → Snapshot) : View ι :=
  { v with sources := modifyFirst name (fun r => { r with snapshot := f r.snapshot }) v.sources }

/-- Enters a change that a source reports of itself, and reports what that changes.  The source is
the first one of its name; with no such source there is no answer. -/
def enter? (v : View ι) (e : Event) : Option (View ι × Option Event) :=
  if v.knows e.source then
    some ((v.modifySnapshot e.source fun s => e.replay s).remergeKey e.key)
  else none

/-- Replaces the snapshots of sources, each time of the first one of the name, without merging. -/
def replaceSnapshots (v : View ι) (pulled : List (String × Snapshot)) : View ι :=
  pulled.foldl (fun v p => v.modifySnapshot p.1 fun _ => p.2) v

end View

end SidecarAgent.Config
