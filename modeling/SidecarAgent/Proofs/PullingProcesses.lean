import Mathlib.Data.Nat.Notation
import SidecarAgent.Simulation.Asking
import SidecarAgent.Proofs.CursorHistory

/-!
# Processes that pull

A process that pulls makes a request up, hands it to the control plane, and takes its outcome over;
in between it may wait, and whatever else it does is quiet, that is, moves no cursor and asks for
nothing (`Asks`, `Pulls`).  A process that carries a dialogue out pulls (`Act.pulls_carryOut`).
-/

namespace SidecarAgent.Simulation

open Discovery

/-! ## Steps of a process -/

/-- A step that neither moves a cursor nor asks the control plane for anything. -/
structure Quiet (w v : World) : Prop where
  cursors : v.cursors = w.cursors
  node : v.node = w.node
  requests : v.controlPlane.requests ⊆ w.controlPlane.requests

/-- A step that hands a request to the control plane. -/
structure Hands (request : Request) (w v : World) : Prop where
  cursors : v.cursors = w.cursors
  node : v.node = w.node
  requests : v.controlPlane.requests = w.controlPlane.requests ++ [request]

/-- A step that moves the cursors as an exchange does. -/
structure Receives (x : Exchange) (w v : World) : Prop where
  cursors : v.cursors = x.advance w.cursors
  node : v.node = w.node
  requests : v.controlPlane.requests = w.controlPlane.requests

/-- A step without an effect is quiet. -/
theorem Quiet.refl (w : World) : Quiet w w := ⟨rfl, rfl, List.Subset.refl _⟩

/-- Quiet steps one after another are quiet. -/
theorem Quiet.trans {w v u : World} (h : Quiet w v) (hnext : Quiet v u) : Quiet w u :=
  ⟨hnext.cursors.trans h.cursors, hnext.node.trans h.node,
    List.Subset.trans hnext.requests h.requests⟩

/-- What is left of a process that asks the control plane, while a request of it waits or none does;
`Q` holds of the request that waits in the end, if one does, and of the result. -/
inductive Asks {α : Type} (Q : Option Request → α → Prop) : Option Request → Act α → Prop
  | done {waiting : Option Request} {a : α} (h : Q waiting a) : Asks Q waiting (.done a)
  | look {waiting : Option Request} {next : World → Act α} (h : ∀ w, Asks Q waiting (next w)) :
    Asks Q waiting (.look next)
  | change {waiting : Option Request} {f : World → World} {next : Act α} (hf : ∀ w, Quiet w (f w))
    (h : Asks Q waiting next) : Asks Q waiting (.change f next)
  -- To look and then to change is one step here: what is changed may depend on what was seen.
  | adjust {waiting : Option Request} {next : World → Act α} (f : World → World → World)
    (rest : World → Act α) (hnext : ∀ w, next w = .change (f w) (rest w))
    (hf : ∀ w, Quiet w (f w w)) (h : ∀ w, Asks Q waiting (rest w)) : Asks Q waiting (.look next)
  | send {next : World → Act α} (t : ResourceType) (names : List String)
    (h : ∀ w, Asks Q (some (Request.make w.cursors w.node t names)) (next w)) :
    Asks Q none (.look next)
  | hand {request : Request} {next : World → Act α} (f : World → World → World)
    (rest : World → Act α) (hnext : ∀ w, next w = .change (f w) (rest w))
    (hf : ∀ w, Hands request w (f w w)) (h : ∀ w, Asks Q (some request) (rest w)) :
    Asks Q (some request) (.look next)
  | receive {request : Request} {f : World → World} {next : Act α} (outcome : Outcome)
    (hf : ∀ w, Receives ⟨request, outcome⟩ w (f w)) (h : Asks Q none next) :
    Asks Q (some request) (.change f next)
  | clock {waiting : Option Request} {next : ℕ → Act α} (h : ∀ now, Asks Q waiting (next now)) :
    Asks Q waiting (.clock next)
  | timer {waiting : Option Request} {deadline : ℕ} {next : Timer → Act α}
    (h : ∀ t, Asks Q waiting (next t)) : Asks Q waiting (.timer deadline next)
  | await {waiting : Option Request} {timers : List Timer} {ready : World → ℕ → Bool} {next : Act α}
    (h : Asks Q waiting next) : Asks Q waiting (.await timers ready next)
  | pause {waiting : Option Request} {next : Act α} (h : Asks Q waiting next) :
    Asks Q waiting (.pause next)

/-- A process pulls when it asks with one request after another, and each of them has had its
outcome before it ends. -/
def Pulls {α : Type} (p : Act α) : Prop := Asks (fun waiting _ => waiting = none) none p

namespace Asks

variable {α β : Type} {Q : Option Request → α → Prop} {R : Option Request → β → Prop}
  {waiting : Option Request}

/-- A process that asks goes on as one that asks. -/
theorem bind {p : Act α} (hp : Asks Q waiting p) {f : α → Act β}
    (hf : ∀ waiting a, Q waiting a → Asks R waiting (f a)) : Asks R waiting (p.bind f) := by
  induction hp with
  | done h => exact hf _ _ h
  | look _ ih => exact .look ih
  | change hg _ ih => exact .change hg ih
  | adjust g rest hnext hg _ ih =>
    refine .adjust g (fun w => (rest w).bind f) (fun w => ?_) hg ih
    rw [hnext w]
    rfl
  | send t names _ ih => exact .send t names ih
  | hand g rest hnext hg _ ih =>
    refine .hand g (fun w => (rest w).bind f) (fun w => ?_) hg ih
    rw [hnext w]
    rfl
  | receive outcome hg _ ih => exact .receive outcome hg ih
  | clock _ ih => exact .clock ih
  | timer _ ih => exact .timer ih
  | await _ ih => exact .await ih
  | pause _ ih => exact .pause ih

end Asks

namespace Pulls

variable {α β : Type}

/-- A process that pulls goes on as one that pulls. -/
theorem bind {p : Act α} (hp : Pulls p) {f : α → Act β} (hf : ∀ a, Pulls (f a)) :
    Pulls (p.bind f) := by
  refine Asks.bind hp fun waiting a hwaiting => ?_
  subst hwaiting
  exact hf a

/-- A process that pulls may have to do something else first that pulls. -/
theorem beforehand {c : Prop} [Decidable c] {p : Act Unit} {q : Act α} (hp : Pulls p)
    (hq : Pulls q) : Pulls (if c then p.bind fun _ => q else q) := by
  split
  · exact hp.bind fun _ => hq
  · exact hq

end Pulls

/-- Entering notes is quiet. -/
theorem quiet_enter (w : World) (notes : List Telemetry.Note) : Quiet w (w.enter notes) :=
  ⟨rfl, rfl, List.Subset.refl _⟩

/-- Entering notes leaves a request waiting. -/
theorem Act.asks_enter (waiting : Option Request) (notes : List Telemetry.Note) :
    Asks (fun w (_ : Unit) => w = waiting) waiting (Act.enter notes) :=
  .change (fun w => quiet_enter w notes) (.done rfl)

/-! ## Dialogues -/

/-- A control plane remembers what it is asked. -/
theorem requests_receive (cp : ControlPlane) (request : Request) :
    (cp.receive request).1.requests = cp.requests ++ [request] := by
  unfold ControlPlane.receive
  dsimp only
  split
  · rfl
  · split
    · rfl
    · split
      · rfl
      · rfl

namespace Act

/-- A request waits while it is handed over. -/
theorem asks_hand (request : Request) :
    Asks (fun w (_ : Option Outcome) => w = some request) (some request) (hand request) := by
  refine .hand (fun w v => { v with controlPlane := (w.controlPlane.receive request).1 })
    (fun w => .done (w.controlPlane.receive request).2) (fun w => rfl) (fun w => ?_)
    fun w => .done rfl
  exact ⟨rfl, rfl, requests_receive w.controlPlane request⟩

/-- A request waits until it is answered or its time is up. -/
theorem asks_answerOrTimeOut (request : Request) (deadline : ℕ) (limit : Option Timer) :
    Asks (fun w (_ : Outcome) => w = some request) (some request)
      (answerOrTimeOut request deadline limit) := by
  refine (asks_hand request).bind fun waiting answer hwaiting => ?_
  subst hwaiting
  cases answer with
  | some outcome => exact .done rfl
  | none =>
    cases limit with
    | some t => exact .await (.look fun w => .done rfl)
    | none => exact .timer fun t => .await (.look fun w => .done rfl)

/-- A request waits while it is fetched. -/
theorem asks_fetch (request : Request) :
    Asks (fun w (_ : Outcome) => w = some request) (some request) (fetch request) := by
  refine .look fun w => .clock fun start => ?_
  simp only [Process.bind]
  split
  · exact asks_answerOrTimeOut request _ none
  · refine .timer fun arrival => .timer fun limit => .await (.clock fun now => ?_)
    simp only [Process.bind]
    split
    · exact asks_answerOrTimeOut request _ (some limit)
    · exact .done rfl

/-- Asking for resources is a pull: a request is made up and waits until its outcome is taken over.
-/
theorem pulls_discover (t : ResourceType) (names : List String) : Pulls (discover t names) := by
  refine (asks_enter none (sendNotes t)).bind fun waiting _ hwaiting => ?_
  subst hwaiting
  refine .send t names fun w => (asks_fetch (Request.make w.cursors w.node t names)).bind
    fun waiting outcome hwaiting => ?_
  subst hwaiting
  refine (asks_enter _ _).bind fun waiting _ hwaiting => ?_
  subst hwaiting
  exact .receive outcome (fun _ => ⟨rfl, rfl, rfl⟩) (.done rfl)

/-- Looking tags up asks for nothing. -/
theorem pulls_lookup (query : SubsetQuery) : Pulls (lookup query) := by
  refine .look fun w => ?_
  simp only [Process.bind]
  split
  · exact .done rfl
  · exact .done rfl
  · unfold clusterTags
    split
    · exact .done rfl
    · exact .pause (.change (fun _ => ⟨rfl, rfl, List.Subset.refl _⟩) (.look fun v => .done rfl))

/-- A process that carries a dialogue out pulls. -/
theorem pulls_carryOut {α : Type} (d : Dialogue α) : Pulls (carryOut d) := by
  induction d with
  | done a => exact .done rfl
  | note n next ih => exact Pulls.bind (asks_enter none [n]) fun _ => ih
  | discover t names next ih => exact Pulls.bind (pulls_discover t names) ih
  | lookup query next ih => exact Pulls.bind (pulls_lookup query) ih

end Act

end SidecarAgent.Simulation
