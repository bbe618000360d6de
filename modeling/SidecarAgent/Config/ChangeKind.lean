/-!
# Kinds of change
-/

namespace SidecarAgent.Config

/-- What can happen to a key. -/
inductive ChangeKind where
  | create
  | update
  | delete
  deriving DecidableEq, Repr

/-- The word for a kind of change. -/
def ChangeKind.text : ChangeKind → String
  | create => "create"
  | update => "update"
  | delete => "delete"

/-- The kind of change that a word names. -/
def ChangeKind.ofText? (s : String) : Option ChangeKind :=
  if s = "create" then some create
  else if s = "update" then some update
  else if s = "delete" then some delete
  else none

/-- The word for a kind reads back as the kind. -/
theorem ChangeKind.ofText?_text (k : ChangeKind) : ofText? k.text = some k := by
  cases k <;> decide

end SidecarAgent.Config
