import SidecarAgent.Discovery.Dialogue
import SidecarAgent.Network.Uri

/-!
# Sessions with a control plane

A session is a dialogue carried out at once, against surroundings that are given as the answers to
its questions.  It moves the agent's cursors and collects what is noted.
-/

namespace SidecarAgent.Discovery

open Network (Uri)
open Telemetry (Note)

/-- Whom an agent talks to: who it is itself, what becomes of a request, and the tags of a subset,
if they can be looked up. -/
structure Peer where
  node : Node
  answer : Request → Outcome
  tags : SubsetQuery → Option Tags

/-- What becomes of every question of a dialogue, by the number of requests or of look-ups before
it. -/
structure Answers where
  outcome : Nat → Request → Outcome
  tags : Nat → SubsetQuery → Option Tags

/-- The answers after the first request. -/
def Answers.afterRequest (answers : Answers) : Answers :=
  { answers with outcome := fun n => answers.outcome (n + 1) }

/-- The answers after the first look-up. -/
def Answers.afterLookup (answers : Answers) : Answers :=
  { answers with tags := fun n => answers.tags (n + 1) }

/-- The answers of someone who always answers in the same way. -/
def Peer.answers (peer : Peer) : Answers := ⟨fun _ => peer.answer, fun _ => peer.tags⟩

/-- A result, the cursors after it, and what was noted on the way. -/
structure Session (α : Type) where
  result : α
  cursors : Cursors
  notes : List Note

/-- A session that begins with some notes. -/
def Session.after {α : Type} (notes : List Note) (s : Session α) : Session α :=
  { s with notes := notes ++ s.notes }

/-- Carries a dialogue out with the answers that it gets. -/
def Dialogue.answered {α : Type} (node : Node) : Answers → Dialogue α → Cursors → Session α
  | _, .done a, cursors => ⟨a, cursors, []⟩
  | answers, .note n next, cursors => (next.answered node answers cursors).after [n]
  | answers, .lookup query next, cursors =>
    (next (answers.tags 0 query)).answered node answers.afterLookup cursors
  | answers, .discover t names next, cursors =>
    let outcome := answers.outcome 0 (Request.make cursors node t names)
    let result := outcome.resources t t.decode?
    ((next result).answered node answers.afterRequest (outcome.advance t t.decode? cursors)).after
      (sendNotes t ++ receiveNotes t result.isOk)

/-- Carries a dialogue out. -/
def Dialogue.carryOut {α : Type} (peer : Peer) (d : Dialogue α) (cursors : Cursors) : Session α :=
  d.answered peer.node peer.answers cursors

/-- What becomes of a request to an address where nobody listens.  Without a scheme nobody is even
looked for. -/
def refusal : Uri → Outcome
  | .absolute => .failed { code := .unavailable, lostConnection := true }
  | .relative => .failed { code := .unknown }

end SidecarAgent.Discovery
