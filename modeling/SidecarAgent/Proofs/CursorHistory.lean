import SidecarAgent.Discovery.Session

/-!
# How exchanges move cursors

The cursor of a type is that of the last response of the type that could be decoded, and stays what
it was as long as there is none (`leavesAt_advanceAll`).  A session moves its cursors by the
exchanges of its dialogue, one after another (`cursors_answered`).
-/

namespace SidecarAgent.Discovery

/-! ## Single exchanges -/

/-- The cursor that a response stands for. -/
def Response.cursor (response : Response) : Cursor := ⟨response.version, response.nonce⟩

/-- An outcome is an error and leaves the cursors, or a response that can be decoded and moves the
cursor of its type to its own. -/
theorem Outcome.advance_cases {α : Type} (t : ResourceType) (decode? : Wire.Bytes → Option α)
    (cursors : Cursors) (outcome : Outcome) :
    (∃ e, outcome.resources t decode? = .error e ∧ outcome.advance t decode? cursors = cursors) ∨
      ∃ response resources, outcome = .answered response ∧
        response.unpack t decode? = .ok resources ∧
        outcome.advance t decode? cursors = cursors.set t response.cursor := by
  cases outcome with
  | timedOut limit => exact .inl ⟨_, rfl, rfl⟩
  | failed status => exact .inl ⟨_, rfl, rfl⟩
  | closed => exact .inl ⟨_, rfl, rfl⟩
  | answered response =>
    have hresources : (answered response).resources t decode? = response.unpack t decode? := rfl
    cases hunpack : response.unpack t decode? with
    | error e =>
      refine .inl ⟨e, hunpack, ?_⟩
      unfold advance
      rw [hresources, hunpack]
    | ok resources =>
      refine .inr ⟨response, resources, rfl, hunpack, ?_⟩
      unfold advance
      rw [hresources, hunpack]
      rfl

/-- An exchange that has come to its end: what was asked, and how it ended. -/
structure Exchange where
  request : Request
  outcome : Outcome
  deriving DecidableEq

namespace Exchange

/-- An exchange brings a response of a type when it asked for the type and was answered with the
response, all of which could be decoded. -/
def Brings (x : Exchange) (t : ResourceType) (response : Response) : Prop :=
  x.request.type = t ∧ x.outcome = .answered response ∧
    ∃ resources, response.unpack t t.decode? = .ok resources

/-- The cursors after an exchange. -/
def advance (cursors : Cursors) (x : Exchange) : Cursors :=
  x.outcome.advance x.request.type x.request.type.decode? cursors

/-- An exchange leaves the cursors of other types. -/
theorem advance_of_ne (cursors : Cursors) {x : Exchange} {t : ResourceType}
    (h : t ≠ x.request.type) : x.advance cursors t = cursors t := by
  rcases x.outcome.advance_cases x.request.type x.request.type.decode? cursors with
    ⟨e, -, hsame⟩ | ⟨response, resources, -, -, hmoved⟩
  · exact congrFun hsame t
  · exact (congrFun hmoved t).trans (Cursors.set_of_ne cursors response.cursor h)

/-- An exchange that fails leaves every cursor. -/
theorem advance_of_error (cursors : Cursors) {x : Exchange} {e : DiscoveryError}
    (h : x.outcome.resources x.request.type x.request.type.decode? = .error e) :
    x.advance cursors = cursors := by
  rcases x.outcome.advance_cases x.request.type x.request.type.decode? cursors with
    ⟨-, -, hsame⟩ | ⟨response, resources, houtcome, hunpack, -⟩
  · exact hsame
  · rw [houtcome] at h
    cases hunpack.symm.trans h

/-- A response that an exchange brings moves the cursor of its type. -/
theorem advance_of_brings (cursors : Cursors) {x : Exchange} {t : ResourceType}
    {response : Response}
    (h : x.Brings t response) : x.advance cursors t = response.cursor := by
  obtain ⟨rfl, houtcome, resources, hunpack⟩ := h
  rcases x.outcome.advance_cases x.request.type x.request.type.decode? cursors with
    ⟨e, herror, -⟩ | ⟨other, -, hother, -, hmoved⟩
  · rw [houtcome] at herror
    cases hunpack.symm.trans herror
  · rw [houtcome] at hother
    cases hother
    exact (congrFun hmoved _).trans (Cursors.set_self cursors _ _)

/-- An exchange that brings no response of a type leaves the cursor of the type. -/
theorem advance_of_not_brings (cursors : Cursors) {x : Exchange} {t : ResourceType}
    (h : ∀ response, ¬ x.Brings t response) : x.advance cursors t = cursors t := by
  by_cases ht : t = x.request.type
  · subst ht
    rcases x.outcome.advance_cases x.request.type x.request.type.decode? cursors with
      ⟨e, -, hsame⟩ | ⟨response, resources, houtcome, hunpack, -⟩
    · exact congrFun hsame _
    · exact absurd ⟨rfl, houtcome, resources, hunpack⟩ (h response)
  · exact advance_of_ne cursors ht

end Exchange

/-! ## Many exchanges -/

/-- Exchanges leave the cursor of a type at `last`, from `first`: at the cursor of the last response
of the type that one of them brings, or where it was if none of them brings any. -/
def LeavesAt (xs : List Exchange) (t : ResourceType) (first last : Cursor) : Prop :=
  ((∀ x ∈ xs, ∀ response, ¬ x.Brings t response) ∧ last = first) ∨
    ∃ earlier x later response, xs = earlier ++ x :: later ∧ x.Brings t response ∧
      (∀ y ∈ later, ∀ other, ¬ y.Brings t other) ∧ last = response.cursor

/-- The cursors after some exchanges. -/
def advanceAll (cursors : Cursors) (xs : List Exchange) : Cursors :=
  xs.foldl Exchange.advance cursors

/-- Exchanges move the cursors one after another. -/
theorem advanceAll_append (cursors : Cursors) (xs ys : List Exchange) :
    advanceAll cursors (xs ++ ys) = advanceAll (advanceAll cursors xs) ys := List.foldl_append

/-- Exchanges move the cursor of every type to that of the last response of the type that they
bring. -/
theorem leavesAt_advanceAll (cursors : Cursors) (xs : List Exchange) (t : ResourceType) :
    LeavesAt xs t (cursors t) (advanceAll cursors xs t) := by
  induction xs generalizing cursors with
  | nil => exact .inl ⟨by simp, rfl⟩
  | cons x rest ih =>
    rcases ih (x.advance cursors) with ⟨hnone, hlast⟩ | ⟨earlier, y, later, response, hsplit, hy⟩
    · -- nothing comes behind `x`, so that `x` decides
      by_cases hx : ∃ response, x.Brings t response
      · obtain ⟨response, hbrings⟩ := hx
        refine .inr ⟨[], x, rest, response, rfl, hbrings, hnone, ?_⟩
        exact hlast.trans (Exchange.advance_of_brings cursors hbrings)
      · rw [not_exists] at hx
        refine .inl ⟨?_, hlast.trans (Exchange.advance_of_not_brings cursors hx)⟩
        intro y hy
        rcases List.mem_cons.1 hy with rfl | hy
        · exact hx
        · exact hnone y hy
    · exact .inr ⟨x :: earlier, y, later, response, by rw [hsplit, List.cons_append], hy⟩

/-! ## The exchanges of a dialogue -/

namespace Dialogue

/-- The exchanges of a dialogue that gets some answers. -/
def exchanges {α : Type} (node : Node) : Answers → Dialogue α → Cursors → List Exchange
  | _, .done _, _ => []
  | answers, .note _ next, cursors => next.exchanges node answers cursors
  | answers, .lookup query next, cursors =>
    (next (answers.tags 0 query)).exchanges node answers.afterLookup cursors
  | answers, .discover t names next, cursors =>
    let request := Request.make cursors node t names
    let outcome := answers.outcome 0 request
    ⟨request, outcome⟩ ::
      (next (outcome.resources t t.decode?)).exchanges node answers.afterRequest
        (outcome.advance t t.decode? cursors)

/-- A session moves its cursors by the exchanges of its dialogue. -/
theorem cursors_answered {α : Type} (node : Node) (answers : Answers) (d : Dialogue α)
    (cursors : Cursors) :
    (d.answered node answers cursors).cursors =
      advanceAll cursors (d.exchanges node answers cursors) := by
  induction d generalizing answers cursors with
  | done a => rfl
  | note n next ih => exact ih answers cursors
  | lookup query next ih => exact ih _ _ cursors
  | discover t names next ih => exact ih _ _ _

end Dialogue

end SidecarAgent.Discovery
