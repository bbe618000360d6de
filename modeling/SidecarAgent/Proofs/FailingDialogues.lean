import SidecarAgent.Egress.Derived
import SidecarAgent.Endpoint.Discovered
import SidecarAgent.Proofs.CursorHistory

/-!
# Dialogues that end with the first failure

A dialogue is strict when it ends with the error of the first exchange that fails, and with a result
where none does (`Strict.answered`).  Both pulls of an agent are strict (`Egress.strict_pull`,
`Endpoint.strict_pull`), so that a pull fails exactly where one of its requests does, and at the
last of them.
-/

namespace SidecarAgent.Discovery

/-! ## How an exchange ends -/

/-- An exchange fails with an error. -/
def Exchange.Fails (x : Exchange) (e : DiscoveryError) : Prop :=
  x.outcome.resources x.request.type x.request.type.decode? = .error e

/-- An exchange succeeds when it brings resources. -/
def Exchange.Succeeds (x : Exchange) : Prop :=
  ∃ resources, x.outcome.resources x.request.type x.request.type.decode? = .ok resources

/-- An exchange that fails does not succeed. -/
theorem Exchange.Fails.not_succeeds {x : Exchange} {e : DiscoveryError} (h : x.Fails e) :
    ¬ x.Succeeds := by
  rintro ⟨resources, hok⟩
  cases h.symm.trans hok

namespace Dialogue

variable {α β : Type}

/-! ## Strict dialogues -/

/-- A dialogue is strict when it ends with the error of any request that fails, and in no other
error. -/
def Strict : Dialogue (Except DiscoveryError α) → Prop
  | done a => ∃ b, a = .ok b
  | note _ next => next.Strict
  | discover _ _ next =>
    (∀ e, next (.error e) = done (.error e)) ∧ ∀ resources, (next (.ok resources)).Strict
  | lookup _ next => ∀ tags, (next tags).Strict

/-- With any answers, either all exchanges of a strict dialogue succeed and it has a result, or the
last one fails, those before it succeed, and the dialogue ends with the error of the last one. -/
theorem Strict.answered {d : Dialogue (Except DiscoveryError α)} (h : d.Strict) (node : Node)
    (answers : Answers) (cursors : Cursors) :
    ((∃ a, (d.answered node answers cursors).result = .ok a) ∧
      ∀ x ∈ d.exchanges node answers cursors, x.Succeeds) ∨
    ∃ e earlier x, (d.answered node answers cursors).result = .error e ∧
      d.exchanges node answers cursors = earlier ++ [x] ∧ x.Fails e ∧
        ∀ y ∈ earlier, y.Succeeds := by
  induction d generalizing answers cursors with
  | done a => exact .inl ⟨h, by simp [exchanges]⟩
  | note n next ih => exact ih h answers cursors
  | lookup query next ih => exact ih _ (h _) _ cursors
  | discover t names next ih =>
    cases hresources :
      (answers.outcome 0 (Request.make cursors node t names)).resources t t.decode? with
    | error e =>
      refine .inr ⟨e, [], ⟨Request.make cursors node t names,
        answers.outcome 0 (Request.make cursors node t names)⟩, ?_, ?_, hresources, by simp⟩
      · show ((next _).answered node answers.afterRequest _).result = _
        rw [hresources, h.1 e]
        rfl
      · show _ :: (next _).exchanges node answers.afterRequest _ = _
        rw [hresources, h.1 e]
        rfl
    | ok resources =>
      have hsucceeds : Exchange.Succeeds ⟨Request.make cursors node t names,
          answers.outcome 0 (Request.make cursors node t names)⟩ := ⟨resources, hresources⟩
      have hrest := ih (.ok resources) (h.2 resources) answers.afterRequest
        ((answers.outcome 0 (Request.make cursors node t names)).advance t t.decode? cursors)
      rw [← hresources] at hrest
      rcases hrest with ⟨hok, hall⟩ | ⟨e, earlier, x, herror, hsplit, hfails, hearlier⟩
      · refine .inl ⟨hok, fun x hx => ?_⟩
        rcases List.mem_cons.1 hx with rfl | hx
        · exact hsucceeds
        · exact hall x hx
      · refine .inr ⟨e, _ :: earlier, x, herror, congrArg _ hsplit, hfails, fun y hy => ?_⟩
        rcases List.mem_cons.1 hy with rfl | hy
        · exact hsucceeds
        · exact hearlier y hy

/-- A strict dialogue fails exactly when one of its exchanges does. -/
theorem Strict.error_iff {d : Dialogue (Except DiscoveryError α)} (h : d.Strict) (node : Node)
    (answers : Answers) (cursors : Cursors) (e : DiscoveryError) :
    (d.answered node answers cursors).result = .error e ↔
      ∃ x ∈ d.exchanges node answers cursors, x.Fails e := by
  rcases h.answered node answers cursors with
    ⟨⟨a, hok⟩, hall⟩ | ⟨f, earlier, x, herror, hsplit, hfails, hearlier⟩
  · rw [hok]
    constructor
    · intro heq
      cases heq
    · rintro ⟨x, hx, hfails⟩
      exact absurd (hall x hx) hfails.not_succeeds
  · rw [herror, hsplit]
    constructor
    · intro heq
      cases heq
      exact ⟨x, by simp, hfails⟩
    · rintro ⟨y, hy, hfailsy⟩
      rcases List.mem_append.1 hy with hy | hy
      · exact absurd (hearlier y hy) hfailsy.not_succeeds
      · rw [List.mem_singleton.1 hy] at hfailsy
        cases hfails.symm.trans hfailsy
        rfl

/-! ## Combining strict dialogues -/

/-- Asking for resources is strict. -/
theorem strict_ask (t : ResourceType) (names : List String) : (ask t names).Strict :=
  ⟨fun _ => rfl, fun resources => ⟨resources, rfl⟩⟩

/-- A strict dialogue that is continued strictly where it succeeded is strict. -/
theorem Strict.andThen {d : Dialogue (Except DiscoveryError α)}
    {f : α → Dialogue (Except DiscoveryError β)} (hd : d.Strict) (hf : ∀ a, (f a).Strict) :
    (d.andThen f).Strict := by
  induction d with
  | done a =>
    obtain ⟨b, rfl⟩ := hd
    exact hf b
  | note n next ih => exact ih hd
  | lookup query next ih => exact fun tags => ih tags (hd tags)
  | discover t names next ih =>
    refine ⟨fun e => ?_, fun resources => ih (.ok resources) (hd.2 resources)⟩
    show (next (.error e)).andThen f = _
    rw [hd.1 e]
    rfl

/-- A strict dialogue with a function applied where it succeeded is strict. -/
theorem Strict.map {d : Dialogue (Except DiscoveryError α)} (hd : d.Strict) (f : α → β) :
    (d.map fun r => r.map f).Strict := by
  have hmap : (d.map fun r => r.map f) = d.andThen fun a => done (.ok (f a)) := by
    show d.bind _ = d.bind _
    congr 1
    funext r
    cases r <;> rfl
  rw [hmap]
  exact hd.andThen fun a => ⟨f a, rfl⟩

end Dialogue

end SidecarAgent.Discovery

/-! ## The pulls of an agent -/

namespace SidecarAgent.Egress

open Discovery (Dialogue)

/-- Pulling egress rules is strict. -/
theorem strict_pull : pull.Strict := (Dialogue.strict_ask .cluster []).map derivedSnapshot

end SidecarAgent.Egress

namespace SidecarAgent.Endpoint

open Config (Snapshot)
open Discovery (Cluster Dialogue)

/-- Pulling the subsets of clusters is strict: tags that cannot be looked up are no failure. -/
theorem strict_pullClusters (previous : Snapshot) (clusters : List Cluster) (s : Snapshot) :
    (pullClusters previous clusters s).Strict := by
  induction clusters generalizing s with
  | nil => exact ⟨s, rfl⟩
  | cons cluster rest ih =>
    unfold pullClusters
    split
    · exact ih s
    · intro tags
      cases tags with
      | none => exact ih _
      | some tags =>
        exact ((Dialogue.strict_ask .loadAssignment [cluster.name]).map _).andThen
          fun assignment => ih _

/-- Pulling subsets is strict. -/
theorem strict_pull (previous : Snapshot) : (pull previous).Strict :=
  (Dialogue.strict_ask .cluster []).andThen fun clusters => strict_pullClusters previous clusters ∅

end SidecarAgent.Endpoint
