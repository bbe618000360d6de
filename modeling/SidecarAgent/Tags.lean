import SidecarAgent.KeyMap

/-!
# Tags

Tags are named texts.  They tell the parts of a service apart, and whoever looks for a part names
the tags it must have.
-/

namespace SidecarAgent

/-- Tags, by name. -/
abbrev Tags := KeyMap String

/-- Every tag of `wanted` is among `tags`, with the same value. -/
def Tags.includes (tags wanted : Tags) : Bool :=
  wanted.entries.all fun e => tags.get? e.1 = some e.2

/-- Tags include others when every look-up that succeeds in those gives the same here. -/
theorem Tags.includes_iff (tags wanted : Tags) :
    Tags.includes tags wanted = true ↔ ∀ k v, wanted.get? k = some v → tags.get? k = some v := by
  simp only [Tags.includes, List.all_eq_true, decide_eq_true_eq]
  constructor
  · intro h k v hk
    exact h (k, v) ((KeyMap.mem_entries_iff wanted k v).2 hk)
  · intro h e he
    exact h e.1 e.2 ((KeyMap.mem_entries_iff wanted e.1 e.2).1 he)

end SidecarAgent
