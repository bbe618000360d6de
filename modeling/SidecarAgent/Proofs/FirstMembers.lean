/-!
# First members

A walk over a list that stops where something is wrong stops at the first member with which
something is wrong: the list splits into good members, that one, and others that are never looked
at.  Such a split is found by looking at the head of the list alone (`exists_first_cons_iff`), as
the walk does.
-/

namespace SidecarAgent

/-- In a list, some member is the first that is not good, and has a property: it is the first
member, or that one is good and the same holds in what is left. -/
theorem exists_first_cons_iff {α : Type} {good : α → Prop} {property : List α → α → Prop} {a : α}
    {rest : List α} :
    (∃ before b after, a :: rest = before ++ b :: after ∧ (∀ x ∈ before, good x) ∧
      property before b) ↔
      property [] a ∨ good a ∧ ∃ before b after, rest = before ++ b :: after ∧
        (∀ x ∈ before, good x) ∧ property (a :: before) b := by
  constructor
  · rintro ⟨before, b, after, hsplit, hgood, hproperty⟩
    cases before with
    | nil =>
      cases hsplit
      exact .inl hproperty
    | cons c others =>
      cases hsplit
      obtain ⟨ha, hothers⟩ := List.forall_mem_cons.1 hgood
      exact .inr ⟨ha, others, b, after, rfl, hothers, hproperty⟩
  · rintro (hproperty | ⟨ha, others, b, after, rfl, hothers, hproperty⟩)
    · exact ⟨[], a, rest, rfl, by simp, hproperty⟩
    · exact ⟨a :: others, b, after, rfl, List.forall_mem_cons.2 ⟨ha, hothers⟩, hproperty⟩

end SidecarAgent
