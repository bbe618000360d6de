import SidecarAgent.Config.Value

/-!
# Differences between snapshots

The changes that lead from one snapshot to another: first what is new or different, in key order,
then what is gone, in key order.  Values are compared by what they hold.
-/

namespace SidecarAgent.Config

/-- The change at a key of the new snapshot, if there is one. -/
def changeTo? (old : Snapshot) (key : String) (value : Value) : Option Change :=
  match old.get? key with
  | none => some (.create value)
  | some before => if before = value then none else some (.update value)

/-- The keys that are new or different, with their changes. -/
def settings (old new : Snapshot) : List (String × Change) :=
  new.entries.filterMap fun e => (changeTo? old e.1 e.2).map fun c => (e.1, c)

/-- The keys that are gone, each with a deletion. -/
def deletions (old new : Snapshot) : List (String × Change) :=
  (old.keys.filter fun k => !new.contains k).map fun k => (k, .delete)

/-- The changes from one snapshot to another. -/
def changes (old new : Snapshot) : List (String × Change) :=
  settings old new ++ deletions old new

/-- The changes from one snapshot to another, attributed to a source. -/
def diff (source : String) (old new : Snapshot) : List Event :=
  (changes old new).map fun c => ⟨source, c.1, c.2⟩

end SidecarAgent.Config
