import Mathlib.Data.List.Induction
import Mathlib.Logic.Function.Basic
import SidecarAgent.Proofs.CursorHistory

/-!
# Pulls that share a client

Any number of pulls go on at the same time.  Each of them takes two steps: it sends a request, which
carries the cursor that its type has by then, and at some later time it receives its outcome.  In
whatever order the steps of all pulls come, the cursor of a type is that of the response of the type
that was received last among those that could be decoded (`sound_run`), and every request carries
the cursor of the moment in which it was sent (`sentIn_of_mem_sent`).

A dialogue that has a client to itself is one such order (`run_exchangeSteps`).
-/

namespace SidecarAgent.Discovery

/-- A client of the control plane: who asks, the cursors, the requests that wait for their outcomes
by the numbers of their pulls, and what was sent and what has come to its end so far. -/
structure Client where
  node : Node
  cursors : Cursors := Cursors.start
  waiting : ℕ → Option Request := fun _ => none
  sent : List Request := []
  finished : List Exchange := []

namespace Client

/-! ## Steps -/

/-- What a pull does: it sends its request, or receives the outcome. -/
inductive Action where
  | send (pull : ℕ) (t : ResourceType) (names : List String)
  | receive (pull : ℕ) (outcome : Outcome)

/-- The client after a pull has sent a request. -/
def send (c : Client) (pull : ℕ) (request : Request) : Client :=
  { c with
    waiting := Function.update c.waiting pull (some request)
    sent := c.sent ++ [request] }

/-- The client after a pull has received the outcome of its request. -/
def receive (c : Client) (pull : ℕ) (x : Exchange) : Client :=
  { c with
    cursors := x.advance c.cursors
    waiting := Function.update c.waiting pull none
    finished := c.finished ++ [x] }

/-- A pull that has sent a request waits for its outcome. -/
theorem waiting_send_self (c : Client) (pull : ℕ) (request : Request) :
    (c.send pull request).waiting pull = some request := by
  unfold send
  dsimp only
  rw [Function.update_self]

/-- A pull that has received the outcome of its request does not wait any more. -/
theorem waiting_receive_self (c : Client) (pull : ℕ) (x : Exchange) :
    (c.receive pull x).waiting pull = none := by
  unfold receive
  dsimp only
  rw [Function.update_self]

/-- The client after a step of a pull.  A pull that waits sends nothing more, and one that does not
wait receives nothing. -/
def step (c : Client) : Action → Client
  | .send pull t names =>
    match c.waiting pull with
    | none => c.send pull (Request.make c.cursors c.node t names)
    | some _ => c
  | .receive pull outcome =>
    match c.waiting pull with
    | none => c
    | some request => c.receive pull ⟨request, outcome⟩

/-- A pull that does not wait sends a request with the cursor of its type. -/
theorem step_send {c : Client} {pull : ℕ} (h : c.waiting pull = none) (t : ResourceType)
    (names : List String) :
    c.step (.send pull t names) = c.send pull ⟨t, c.cursors t, names, c.node⟩ := by
  simp only [step, h]
  rfl

/-- A pull that waits receives the outcome of its request. -/
theorem step_receive {c : Client} {pull : ℕ} {request : Request}
    (h : c.waiting pull = some request) (outcome : Outcome) :
    c.step (.receive pull outcome) = c.receive pull ⟨request, outcome⟩ := by
  simp only [step, h]

/-- A step does nothing, or it sends a request with the cursor of its type, or it receives the
outcome of a request. -/
theorem step_cases (c : Client) (action : Action) :
    c.step action = c ∨
      (∃ pull t names, action = .send pull t names ∧ c.waiting pull = none ∧
        c.step action = c.send pull ⟨t, c.cursors t, names, c.node⟩) ∨
      ∃ pull outcome request, action = .receive pull outcome ∧ c.waiting pull = some request ∧
        c.step action = c.receive pull ⟨request, outcome⟩ := by
  cases action with
  | send pull t names =>
    cases hwaiting : c.waiting pull with
    | none => exact .inr (.inl ⟨pull, t, names, rfl, hwaiting, step_send hwaiting t names⟩)
    | some request => exact .inl (by simp only [step, hwaiting])
  | receive pull outcome =>
    cases hwaiting : c.waiting pull with
    | none => exact .inl (by simp only [step, hwaiting])
    | some request =>
      exact .inr (.inr ⟨pull, outcome, request, rfl, hwaiting, step_receive hwaiting outcome⟩)

/-- Sending moves no cursor. -/
theorem cursors_step_send (c : Client) (pull : ℕ) (t : ResourceType) (names : List String) :
    (c.step (.send pull t names)).cursors = c.cursors := by
  cases hwaiting : c.waiting pull with
  | none =>
    rw [step_send hwaiting]
    rfl
  | some request => simp only [step, hwaiting]

/-! ## Runs -/

/-- A client that has asked nothing yet. -/
def start (node : Node) : Client := { node := node }

/-- The client after some steps. -/
def run (c : Client) (schedule : List Action) : Client := schedule.foldl step c

/-- A run goes on where the one before it ended. -/
theorem run_append (c : Client) (schedule more : List Action) :
    c.run (schedule ++ more) = (c.run schedule).run more := List.foldl_append

/-- The last step of a run is taken where the run before it ended. -/
theorem run_concat (c : Client) (schedule : List Action) (action : Action) :
    c.run (schedule ++ [action]) = (c.run schedule).step action := run_append c schedule [action]

/-- A client is sound when its cursors are where the exchanges that have come to an end moved them,
and only requests that were sent wait or have come to an end. -/
structure Sound (c : Client) : Prop where
  cursors : c.cursors = advanceAll Cursors.start c.finished
  waiting : ∀ pull request, c.waiting pull = some request → request ∈ c.sent
  finished : ∀ x ∈ c.finished, x.request ∈ c.sent

/-- A client begins sound. -/
theorem sound_start (node : Node) : (start node).Sound := by
  refine ⟨rfl, fun pull request h => ?_, fun x hx => ?_⟩
  · cases h
  · cases hx

/-- Sending keeps a client sound. -/
theorem Sound.send {c : Client} (h : c.Sound) (pull : ℕ) (request : Request) :
    (c.send pull request).Sound := by
  refine ⟨h.cursors, fun other waiting hother => ?_, fun x hx => ?_⟩
  · unfold Client.send at hother ⊢
    dsimp only at hother ⊢
    rw [Function.update_apply] at hother
    split at hother
    · cases hother
      exact List.mem_append_right _ (List.mem_singleton.2 rfl)
    · exact List.mem_append_left _ (h.waiting other waiting hother)
  · exact List.mem_append_left _ (h.finished x hx)

/-- Receiving the outcome of a request that waits keeps a client sound. -/
theorem Sound.receive {c : Client} (h : c.Sound) {pull : ℕ} {request : Request}
    (hwaiting : c.waiting pull = some request) (outcome : Outcome) :
    (c.receive pull ⟨request, outcome⟩).Sound := by
  refine ⟨?_, fun other waiting hother => ?_, fun x hx => ?_⟩
  · unfold Client.receive advanceAll
    rw [List.foldl_append, h.cursors]
    rfl
  · unfold Client.receive at hother
    dsimp only at hother
    rw [Function.update_apply] at hother
    split at hother
    · cases hother
    · exact h.waiting other waiting hother
  · rcases List.mem_append.1 hx with hx | hx
    · exact h.finished x hx
    · rw [List.mem_singleton.1 hx]
      exact h.waiting pull request hwaiting

/-- A step keeps a client sound. -/
theorem sound_step {c : Client} (h : c.Sound) (action : Action) : (c.step action).Sound := by
  rcases c.step_cases action with hstep | ⟨pull, t, names, -, -, hstep⟩ |
    ⟨pull, outcome, request, -, hwaiting, hstep⟩
  · rwa [hstep]
  · rw [hstep]
    exact h.send pull _
  · rw [hstep]
    exact h.receive hwaiting outcome

/-- Steps keep a client sound. -/
theorem sound_run {c : Client} (h : c.Sound) (schedule : List Action) : (c.run schedule).Sound := by
  induction schedule generalizing c with
  | nil => exact h
  | cons action rest ih => exact ih (sound_step h action)

/-- A client stays that of its node. -/
theorem node_run (c : Client) (schedule : List Action) : (c.run schedule).node = c.node := by
  induction schedule generalizing c with
  | nil => rfl
  | cons action rest ih =>
    refine (ih (c.step action)).trans ?_
    rcases c.step_cases action with hstep | ⟨pull, t, names, -, -, hstep⟩ |
      ⟨pull, outcome, request, -, -, hstep⟩ <;> rw [hstep]
    · rfl
    · rfl

/-! ## Requests -/

/-- A request is sent in the course of a schedule when a pull begins with it at some point, for the
type that the pull is about and with the cursor that this type has at that point. -/
def SentIn (c : Client) (schedule : List Action) (request : Request) : Prop :=
  ∃ earlier pull t later, schedule = earlier ++ .send pull t request.names :: later ∧
    (c.run earlier).waiting pull = none ∧
    request = ⟨t, (c.run earlier).cursors t, request.names, c.node⟩

/-- What was sent by some point was sent by any later one. -/
theorem SentIn.concat {c : Client} {schedule : List Action} {request : Request}
    (h : c.SentIn schedule request) (action : Action) :
    c.SentIn (schedule ++ [action]) request := by
  obtain ⟨earlier, pull, t, later, hsplit, hrequest⟩ := h
  refine ⟨earlier, pull, t, later ++ [action], ?_, hrequest⟩
  rw [hsplit, List.append_assoc, List.cons_append]

/-- Every request of a client that has asked nothing before is sent in the course of its schedule.
-/
theorem sentIn_of_mem_sent {node : Node} {schedule : List Action} {request : Request}
    (h : request ∈ ((start node).run schedule).sent) : (start node).SentIn schedule request := by
  induction schedule using List.reverseRecOn with
  | nil => cases h
  | append_singleton earlier action ih =>
    rw [run_concat] at h
    rcases ((start node).run earlier).step_cases action with hstep |
      ⟨pull, t, names, haction, hwaiting, hstep⟩ | ⟨pull, outcome, waiting, -, -, hstep⟩
    · rw [hstep] at h
      exact (ih h).concat action
    · rw [hstep] at h
      rcases List.mem_append.1 h with h | h
      · exact (ih h).concat action
      · rw [List.mem_singleton.1 h, haction]
        refine ⟨earlier, pull, t, [], rfl, hwaiting, ?_⟩
        rw [node_run]
    · rw [hstep] at h
      exact (ih h).concat action

/-! ## Dialogues -/

/-- The steps of a pull that makes an exchange. -/
def exchangeSteps (pull : ℕ) (x : Exchange) : List Action :=
  [.send pull x.request.type x.request.names, .receive pull x.outcome]

/-- A pull that nobody disturbs makes its exchange. -/
theorem run_exchangeSteps_single {c : Client} {pull : ℕ} (hwaiting : c.waiting pull = none)
    (t : ResourceType) (names : List String) (outcome : Outcome) :
    let x : Exchange := ⟨Request.make c.cursors c.node t names, outcome⟩
    c.run (exchangeSteps pull x) = (c.send pull x.request).receive pull x := by
  intro x
  show (c.step (.send pull t names)).step (.receive pull outcome) = _
  rw [step_send hwaiting]
  exact step_receive (waiting_send_self c pull x.request) outcome

/-- A dialogue that has a client to itself makes its exchanges one after another, and ends with the
cursors of its session. -/
theorem run_exchangeSteps {α : Type} (d : Dialogue α) {c : Client} {pull : ℕ}
    (hwaiting : c.waiting pull = none) (answers : Answers) :
    let xs := d.exchanges c.node answers c.cursors
    let after := c.run (xs.flatMap (exchangeSteps pull))
    after.cursors = (d.answered c.node answers c.cursors).cursors ∧
      after.sent = c.sent ++ xs.map Exchange.request ∧ after.finished = c.finished ++ xs := by
  induction d generalizing c answers with
  | done a => exact ⟨rfl, (List.append_nil _).symm, (List.append_nil _).symm⟩
  | note n next ih => exact ih hwaiting answers
  | lookup query next ih => exact ih _ hwaiting _
  | discover t names next ih =>
    let request := Request.make c.cursors c.node t names
    let x : Exchange := ⟨request, answers.outcome 0 request⟩
    let made := (c.send pull request).receive pull x
    have hmade : made.waiting pull = none := waiting_receive_self _ pull x
    obtain ⟨hcursors, hsent, hfinished⟩ :=
      ih (x.outcome.resources t t.decode?) hmade answers.afterRequest
    have hrun : ∀ rest, c.run (exchangeSteps pull x ++ rest) = made.run rest := by
      intro rest
      rw [run_append, run_exchangeSteps_single hwaiting t names x.outcome]
    intro xs after
    have hafter : after = made.run _ := hrun _
    rw [hafter]
    refine ⟨hcursors, ?_, ?_⟩
    · exact hsent.trans (List.append_assoc _ _ _)
    · exact hfinished.trans (List.append_assoc _ _ _)

/-! ## Cursors -/

/-- However the steps of any number of pulls come, at every time the cursor of a type is empty or
that of the response of the type that was received last among those that could be decoded, and
whatever was sent carries the cursor that its type had by then, under the URL of the type.  At no
time does sending move a cursor, nor receiving move that of another type; a response that cannot be
decoded and a failure move none.

A step sends the request that its pull asks for, or brings the one that its pull has sent to an end,
or does nothing, and a dialogue that has the client to itself brings its exchanges to an end, one
after another. -/
theorem cursors_of_last_responses (node : Node) (schedule : List Action) :
    let c := (start node).run schedule
    (∀ t, LeavesAt c.finished t {} (c.cursors t)) ∧
    (∀ x ∈ c.finished, x.request ∈ c.sent) ∧
    (∀ request ∈ c.sent, (start node).SentIn schedule request ∧
      ResourceType.ofTypeUrl? request.type.typeUrl = some request.type) ∧
    (∀ pull t names, (c.step (.send pull t names)).cursors = c.cursors) ∧
    (∀ pull request outcome, c.waiting pull = some request →
      let after := (c.step (.receive pull outcome)).cursors
      (∀ t, t ≠ request.type → after t = c.cursors t) ∧
      (∀ e, outcome.resources request.type request.type.decode? = .error e → after = c.cursors) ∧
      ∀ response, Exchange.Brings ⟨request, outcome⟩ request.type response →
        after request.type = response.cursor) ∧
    (∀ action, c.step action = c ∨
      (∃ pull t names, action = .send pull t names ∧ c.waiting pull = none ∧
        c.step action = c.send pull ⟨t, c.cursors t, names, c.node⟩) ∨
      ∃ pull outcome request, action = .receive pull outcome ∧ c.waiting pull = some request ∧
        c.step action = c.receive pull ⟨request, outcome⟩) ∧
    ∀ (α : Type) (d : Dialogue α) pull answers, c.waiting pull = none →
      let xs := d.exchanges c.node answers c.cursors
      let after := c.run (xs.flatMap (exchangeSteps pull))
      after.cursors = (d.answered c.node answers c.cursors).cursors ∧
        after.sent = c.sent ++ xs.map Exchange.request ∧ after.finished = c.finished ++ xs := by
  intro c
  have hsound : c.Sound := sound_run (sound_start node) schedule
  refine ⟨fun t => ?_, hsound.finished, fun request h => ?_, fun pull t names => ?_,
    fun pull request outcome hwaiting => ?_, c.step_cases,
    fun α d pull answers hwaiting => run_exchangeSteps d hwaiting answers⟩
  · rw [hsound.cursors]
    exact leavesAt_advanceAll Cursors.start c.finished t
  · exact ⟨sentIn_of_mem_sent h, ResourceType.ofTypeUrl?_typeUrl request.type⟩
  · exact cursors_step_send c pull t names
  · intro after
    have hafter : after = Exchange.advance c.cursors ⟨request, outcome⟩ :=
      congrArg Client.cursors (step_receive hwaiting outcome)
    rw [hafter]
    refine ⟨fun t ht => ?_, fun e he => ?_, fun response hbrings => ?_⟩
    · exact Exchange.advance_of_ne c.cursors ht
    · exact Exchange.advance_of_error c.cursors he
    · exact Exchange.advance_of_brings c.cursors hbrings

/-- A response of a type with neither resources nor a URL, which can always be decoded. -/
def emptyResponse (version nonce : String) : Outcome := .answered ⟨version, nonce, "", []⟩

-- Two pulls of one type overlap; the cursor is that of the response received last, not of the one
-- asked for last.
example (node : Node) :
    ((start node).run [.send 0 .cluster [], .send 1 .cluster [], .receive 1 (emptyResponse "2" "b"),
      .receive 0 (emptyResponse "1" "a")]).cursors .cluster = ⟨"1", "a"⟩ := rfl

end Client

end SidecarAgent.Discovery
