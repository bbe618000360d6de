import Mathlib.Data.List.Forall2
import SidecarAgent.Proofs.CursorHistory
import SidecarAgent.Proofs.FirstMembers

/-!
# Which responses are decoded

A response is decoded in full or not at all, whatever reads the payloads.  Decoding gives one value
for each resource, in their order (`unpackAll_eq_ok_iff`), and fails at the first resource that is
of another type or cannot be read (`unpackAll_eq_error_iff`); the response's own type is looked at
before its resources.  A pull gives what its response decodes to and moves the cursor of its type,
or fails and moves no cursor.
-/

namespace SidecarAgent.Discovery

open Wire (Bytes)

variable {α : Type} {t : ResourceType} {decode? : Bytes → Option α} {e : DiscoveryError}

/-! ## Resources -/

namespace PackedResource

/-- A resource holds a value when it is of the type that was asked for and the value is read from
it. -/
def Holds (t : ResourceType) (decode? : Bytes → Option α) (resource : PackedResource)
    (a : α) : Prop :=
  resource.typeUrl = t.typeUrl ∧ decode? resource.content = some a

/-- What is wrong with a resource: it is of another type or, if it is of the type that was asked
for, nothing is read from it. -/
inductive Offends (t : ResourceType) (decode? : Bytes → Option α) (resource : PackedResource) :
    DiscoveryError → Prop
  | url (hurl : resource.typeUrl ≠ t.typeUrl) :
      Offends t decode? resource (.typeMismatch t.typeUrl resource.typeUrl)
  | content (hurl : resource.typeUrl = t.typeUrl) (hcontent : decode? resource.content = none) :
      Offends t decode? resource (.decode t)

/-- A resource is decoded to the value that it holds. -/
theorem unpack_eq_ok_iff {resource : PackedResource} {a : α} :
    resource.unpack t decode? = .ok a ↔ resource.Holds t decode? a := by
  unfold unpack Holds
  by_cases hurl : resource.typeUrl = t.typeUrl
  · rw [if_pos hurl]
    cases decode? resource.content with
    | none => simp
    | some b => simp [hurl]
  · simp [hurl]

/-- A resource is not decoded exactly for what is wrong with it. -/
theorem unpack_eq_error_iff {resource : PackedResource} :
    resource.unpack t decode? = .error e ↔ resource.Offends t decode? e := by
  constructor
  · intro h
    unfold unpack at h
    split at h
    · rename_i hurl
      split at h
      · cases h
      · rename_i hcontent
        cases h
        exact .content hurl hcontent
    · rename_i hurl
      cases h
      exact .url hurl
  · intro h
    unfold unpack
    cases h with
    | url hurl => rw [if_neg hurl]
    | content hurl hcontent => rw [if_pos hurl, hcontent]

end PackedResource

/-! ## Lists of resources -/

/-- A list is decoded when its head and what is left are. -/
theorem unpackAll_cons_eq_ok_iff {resource : PackedResource}
    {rest : List PackedResource} {as : List α} :
    unpackAll t decode? (resource :: rest) = .ok as ↔
      ∃ a others, resource.unpack t decode? = .ok a ∧ unpackAll t decode? rest = .ok others ∧
        as = a :: others := by
  rw [unpackAll]
  cases resource.unpack t decode? with
  | error f => simp
  | ok a =>
    cases unpackAll t decode? rest with
    | error f => simp
    | ok others => simp [eq_comm]

/-- A list is not decoded when its head is not or, behind a head that is decoded, what is left is
not. -/
theorem unpackAll_cons_eq_error_iff {resource : PackedResource} {rest : List PackedResource} :
    unpackAll t decode? (resource :: rest) = .error e ↔
      resource.unpack t decode? = .error e ∨
        (∃ a, resource.unpack t decode? = .ok a) ∧ unpackAll t decode? rest = .error e := by
  rw [unpackAll]
  cases resource.unpack t decode? with
  | error f => simp
  | ok a =>
    cases unpackAll t decode? rest with
    | error f => simp
    | ok others => simp

/-- Resources are decoded to the values that they hold, each to its own. -/
theorem unpackAll_eq_ok_iff {resources : List PackedResource} {as : List α} :
    unpackAll t decode? resources = .ok as ↔
      List.Forall₂ (PackedResource.Holds t decode?) resources as := by
  induction resources generalizing as with
  | nil =>
    rw [List.forall₂_nil_left_iff, unpackAll, Except.ok.injEq]
    exact eq_comm
  | cons resource rest ih =>
    rw [List.forall₂_cons_left_iff, unpackAll_cons_eq_ok_iff]
    simp only [PackedResource.unpack_eq_ok_iff, ih]

/-- Resources are decoded exactly if each of them holds a value. -/
theorem exists_unpackAll_iff {resources : List PackedResource} :
    (∃ as, unpackAll t decode? resources = .ok as) ↔
      ∀ resource ∈ resources, ∃ a, resource.Holds t decode? a := by
  induction resources with
  | nil => simp [unpackAll]
  | cons resource rest ih =>
    rw [List.forall_mem_cons, ← ih]
    constructor
    · rintro ⟨as, h⟩
      obtain ⟨a, others, ha, hothers, -⟩ := unpackAll_cons_eq_ok_iff.1 h
      exact ⟨⟨a, PackedResource.unpack_eq_ok_iff.1 ha⟩, others, hothers⟩
    · rintro ⟨⟨a, ha⟩, others, hothers⟩
      exact ⟨a :: others, unpackAll_cons_eq_ok_iff.2
        ⟨a, others, PackedResource.unpack_eq_ok_iff.2 ha, hothers, rfl⟩⟩

/-- Resources are not decoded exactly for what is wrong with the first of them that holds no value.
-/
theorem unpackAll_eq_error_iff {resources : List PackedResource} :
    unpackAll t decode? resources = .error e ↔
      ∃ before resource after, resources = before ++ resource :: after ∧
        (∀ earlier ∈ before, ∃ a, earlier.Holds t decode? a) ∧ resource.Offends t decode? e := by
  induction resources with
  | nil => simp [unpackAll]
  | cons resource rest ih =>
    rw [exists_first_cons_iff, ← ih, unpackAll_cons_eq_error_iff]
    simp only [PackedResource.unpack_eq_ok_iff, PackedResource.unpack_eq_error_iff]

/-! ## Responses -/

namespace Response

/-- A response fits a type when its own type is left open or is that type. -/
def Fits (response : Response) (t : ResourceType) : Prop :=
  response.typeUrl = "" ∨ response.typeUrl = t.typeUrl

/-- The first thing that is wrong with a response: it does not fit the type that was asked for or,
if it fits, what is wrong with a resource behind others that hold values. -/
inductive FirstOffence (t : ResourceType) (decode? : Bytes → Option α) (response : Response) :
    DiscoveryError → Prop
  | own (hfits : ¬ response.Fits t) :
      FirstOffence t decode? response (.typeMismatch t.typeUrl response.typeUrl)
  | resource {before after : List PackedResource} {resource : PackedResource}
      {e : DiscoveryError} (hfits : response.Fits t)
      (hsplit : response.resources = before ++ resource :: after)
      (hbefore : ∀ earlier ∈ before, ∃ a, earlier.Holds t decode? a)
      (hoffends : resource.Offends t decode? e) : FirstOffence t decode? response e

variable {response : Response}

/-- A response that fits is decoded as its resources are. -/
theorem unpack_of_fits (h : response.Fits t) :
    response.unpack t decode? = unpackAll t decode? response.resources := by
  refine if_neg fun hwrong => ?_
  rcases h with hopen | hurl
  · exact hwrong.1 hopen
  · exact hwrong.2 hurl

/-- A response that does not fit is not decoded, whatever its resources. -/
theorem unpack_of_not_fits (h : ¬ response.Fits t) :
    response.unpack t decode? = .error (.typeMismatch t.typeUrl response.typeUrl) :=
  if_pos (not_or.1 h)

/-- A response is decoded to the values of its resources if it fits. -/
theorem unpack_eq_ok_iff {as : List α} :
    response.unpack t decode? = .ok as ↔
      response.Fits t ∧ List.Forall₂ (PackedResource.Holds t decode?) response.resources as := by
  by_cases hfits : response.Fits t
  · rw [unpack_of_fits hfits, unpackAll_eq_ok_iff, and_iff_right hfits]
  · simp [unpack_of_not_fits hfits, hfits]

/-- A response is decoded exactly if it fits and each of its resources holds a value. -/
theorem exists_unpack_iff :
    (∃ as, response.unpack t decode? = .ok as) ↔
      response.Fits t ∧ ∀ resource ∈ response.resources, ∃ a, resource.Holds t decode? a := by
  by_cases hfits : response.Fits t
  · rw [unpack_of_fits hfits, exists_unpackAll_iff, and_iff_right hfits]
  · simp [unpack_of_not_fits hfits, hfits]

/-- A response is not decoded exactly for the first thing that is wrong with it. -/
theorem unpack_eq_error_iff :
    response.unpack t decode? = .error e ↔ response.FirstOffence t decode? e := by
  constructor
  · intro h
    by_cases hfits : response.Fits t
    · rw [unpack_of_fits hfits] at h
      obtain ⟨before, resource, after, hsplit, hbefore, hoffends⟩ := unpackAll_eq_error_iff.1 h
      exact .resource hfits hsplit hbefore hoffends
    · rw [unpack_of_not_fits hfits] at h
      cases h
      exact .own hfits
  · intro h
    cases h with
    | own hfits => exact unpack_of_not_fits hfits
    | resource hfits hsplit hbefore hoffends =>
      rw [unpack_of_fits hfits]
      exact unpackAll_eq_error_iff.2 ⟨_, _, _, hsplit, hbefore, hoffends⟩

end Response

/-! ## Pulls -/

/-- The cursors after a response that was decoded. -/
theorem Outcome.advance_of_ok {response : Response} {as : List α}
    (h : (Outcome.answered response).resources t decode? = .ok as) (cursors : Cursors) :
    (Outcome.answered response).advance t decode? cursors =
      cursors.set t ⟨response.version, response.nonce⟩ := by
  unfold advance
  rw [h]

/-- No cursor is moved by an outcome that brings no resources. -/
theorem Outcome.advance_of_error {outcome : Outcome} (h : outcome.resources t decode? = .error e)
    (cursors : Cursors) : outcome.advance t decode? cursors = cursors := by
  rcases outcome.advance_cases t decode? cursors with
    ⟨-, -, hsame⟩ | ⟨response, resources, rfl, hunpack, -⟩
  · exact hsame
  · cases hunpack.symm.trans h

/-- Whatever reads the payloads, a pull that is answered succeeds exactly if the response's own type
is left open or is the type that was asked for, and every resource is of that type and can be read.
It then gives the value of each resource, in their order, and moves the cursor of the type to the
response's.  Otherwise it fails with the first thing that is wrong with the response and moves no
cursor.  A question for resources is such a pull. -/
theorem decoded_in_full_or_not :
    (∀ {α : Type} (t : ResourceType) (decode? : Bytes → Option α) (response : Response)
        (cursors : Cursors),
      let outcome := Outcome.answered response
      ((∃ as, outcome.resources t decode? = .ok as) ↔
        (response.typeUrl = "" ∨ response.typeUrl = t.typeUrl) ∧
          ∀ resource ∈ response.resources,
            resource.typeUrl = t.typeUrl ∧ ∃ a, decode? resource.content = some a) ∧
      (∀ as, outcome.resources t decode? = .ok as →
        List.Forall₂ (fun resource a => decode? resource.content = some a) response.resources as ∧
          outcome.advance t decode? cursors = cursors.set t ⟨response.version, response.nonce⟩) ∧
      ∀ e, outcome.resources t decode? = .error e →
        response.FirstOffence t decode? e ∧ outcome.advance t decode? cursors = cursors) ∧
    ∀ node answers cursors t names,
      let outcome := answers.outcome 0 (Request.make cursors node t names)
      let session := (Dialogue.ask t names).answered node answers cursors
      session.result = outcome.resources t t.decode? ∧
        session.cursors = outcome.advance t t.decode? cursors := by
  refine ⟨?_, ?_⟩
  · intro α t decode? response cursors outcome
    refine ⟨?_, ?_, ?_⟩
    · simp only [← exists_and_left]
      exact Response.exists_unpack_iff
    · intro as h
      obtain ⟨-, hall⟩ := Response.unpack_eq_ok_iff.1 h
      exact ⟨hall.imp fun _ _ hholds => hholds.2, Outcome.advance_of_ok h cursors⟩
    · intro e h
      exact ⟨Response.unpack_eq_error_iff.1 h, Outcome.advance_of_error h cursors⟩
  · intro node answers cursors t names
    exact ⟨rfl, rfl⟩

/-- A resource that cannot be read is reported before a later one of another type. -/
example : unpackAll .cluster List.head?
    [⟨ResourceType.cluster.typeUrl, [1]⟩, ⟨ResourceType.cluster.typeUrl, []⟩, ⟨"", [2]⟩] =
      .error (.decode .cluster) := rfl

end SidecarAgent.Discovery
