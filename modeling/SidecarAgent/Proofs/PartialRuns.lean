import Mathlib.Data.List.Induction

/-!
# Runs that may be impossible

A run takes a list of acts one after the other, and is impossible when one of its acts is.
-/

namespace SidecarAgent

variable {σ α : Type} {act : σ → α → Option σ} {past later acts : List α} {a : α} {s t : σ}

/-- A run goes through one part and then through the other. -/
theorem foldlM_append_eq_some_iff :
    (past ++ later).foldlM act s = some t ↔
      ∃ u, past.foldlM act s = some u ∧ later.foldlM act u = some t := by
  rw [List.foldlM_append]
  exact Option.bind_eq_some_iff

/-- A run goes through what comes before an act, the act itself, and what comes after it. -/
theorem foldlM_append_cons_eq_some_iff :
    (past ++ a :: later).foldlM act s = some t ↔
      ∃ u v, past.foldlM act s = some u ∧ act u a = some v ∧ later.foldlM act v = some t := by
  rw [foldlM_append_eq_some_iff]
  constructor
  · rintro ⟨u, hu, ht⟩
    obtain ⟨v, hv, ht⟩ := Option.bind_eq_some_iff.1 ht
    exact ⟨u, v, hu, hv, ht⟩
  · rintro ⟨u, v, hu, hv, ht⟩
    exact ⟨u, hu, Option.bind_eq_some_iff.2 ⟨v, hv, ht⟩⟩

/-- What holds at the start, and after every act if it held before, holds after every run. -/
theorem foldlM_induction {P : List α → σ → Prop} (hstart : P [] s)
    (hact : ∀ past u a v, P past u → act u a = some v → P (past ++ [a]) v)
    (h : acts.foldlM act s = some t) : P acts t := by
  induction acts using List.reverseRecOn generalizing t with
  | nil =>
    cases h
    exact hstart
  | append_singleton past a ih =>
    obtain ⟨u, v, hu, hv, ht⟩ := foldlM_append_cons_eq_some_iff.1 h
    exact Option.some.inj ht ▸ hact past u a v (ih hu) hv

end SidecarAgent
