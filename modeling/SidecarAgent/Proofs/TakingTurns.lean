import SidecarAgent.Proofs.ConcurrentPulls
import SidecarAgent.Proofs.PullingProcesses
import SidecarAgent.Simulation.Machine

/-!
# Processes that take turns

A machine runs processes that pull, some of them in front, others in the background.  Each of them
is a pull of one client: while it has the world to itself, the client takes some steps of this pull
(`Asks.exists_run`), and the requests of the others wait as before.  Hence, until the processes in
front are finished, a client keeps the cursors of the world, and has sent whatever reaches the
control plane (`Machine.Rests.complete`).
-/

namespace SidecarAgent.Simulation

open Discovery

/-! ## The client of a world -/

/-- A client is that of a world when it has the cursors of the world, and has sent whatever has
reached the control plane. -/
structure Serves (c : Client) (w : World) : Prop where
  sound : c.Sound
  node : w.node = c.node
  cursors : w.cursors = c.cursors
  requests : ∀ request ∈ w.controlPlane.requests, request ∈ c.sent

namespace Serves

variable {c : Client} {w v : World}

/-- After a quiet step the client is still that of the world. -/
theorem quiet (hc : Serves c w) (h : Quiet w v) : Serves c v :=
  ⟨hc.sound, h.node.trans hc.node, h.cursors.trans hc.cursors,
    fun request hrequest => hc.requests request (h.requests hrequest)⟩

/-- A client that sends a request is still that of the world, which has not seen the request yet. -/
theorem send (hc : Serves c w) (pull : ℕ) (request : Request) : Serves (c.send pull request) w :=
  ⟨hc.sound.send pull request, hc.node, hc.cursors,
    fun r hr => List.mem_append_left _ (hc.requests r hr)⟩

/-- A request that was sent may reach the control plane. -/
theorem hand (hc : Serves c w) {request : Request} (h : Hands request w v)
    (hsent : request ∈ c.sent) : Serves c v := by
  refine ⟨hc.sound, h.node.trans hc.node, h.cursors.trans hc.cursors, fun r hr => ?_⟩
  rw [h.requests] at hr
  rcases List.mem_append.1 hr with hr | hr
  · exact hc.requests r hr
  · rw [List.mem_singleton.1 hr]
    exact hsent

/-- The client and the world move their cursors together. -/
theorem receive (hc : Serves c w) {pull : ℕ} {request : Request} {outcome : Outcome}
    (hwaiting : c.waiting pull = some request) (h : Receives ⟨request, outcome⟩ w v) :
    Serves (c.receive pull ⟨request, outcome⟩) v := by
  refine ⟨hc.sound.receive hwaiting outcome, h.node.trans hc.node, ?_, fun r hr => ?_⟩
  · rw [h.cursors, hc.cursors]
    rfl
  · rw [h.requests] at hr
    exact hc.requests r hr

end Serves

/-- A client takes some steps of some pulls, and leaves the requests of the others waiting. -/
def Goes (pulls : Set ℕ) (c after : Client) : Prop :=
  (∃ schedule, after = c.run schedule) ∧ ∀ other ∉ pulls, after.waiting other = c.waiting other

namespace Goes

/-- A client that takes no steps stays as it is. -/
theorem refl (pulls : Set ℕ) (c : Client) : Goes pulls c c := ⟨⟨[], rfl⟩, fun _ _ => rfl⟩

/-- Steps of some pulls follow on each other. -/
theorem trans {pulls : Set ℕ} {c middle after : Client} (h : Goes pulls c middle)
    (hafter : Goes pulls middle after) : Goes pulls c after := by
  obtain ⟨⟨schedule, rfl⟩, hothers⟩ := h
  obtain ⟨⟨more, rfl⟩, hothers'⟩ := hafter
  refine ⟨⟨schedule ++ more, (Client.run_append c schedule more).symm⟩, fun other hother => ?_⟩
  exact (hothers' other hother).trans (hothers other hother)

/-- Steps of some pulls are steps of more of them. -/
theorem mono {pulls more : Set ℕ} {c after : Client} (h : Goes pulls c after)
    (hmore : pulls ⊆ more) :
    Goes more c after := ⟨h.1, fun other hother => h.2 other fun hmem => hother (hmore hmem)⟩

/-- Sending a request is a step of the pull that sends it. -/
theorem send {pull : ℕ} {c : Client} (h : c.waiting pull = none) (t : ResourceType)
    (names : List String) : Goes {pull} c (c.send pull ⟨t, c.cursors t, names, c.node⟩) := by
  refine ⟨⟨[.send pull t names], (Client.step_send h t names).symm⟩, fun other hother => ?_⟩
  unfold Client.send
  dsimp only
  rw [Function.update_of_ne hother]

/-- Receiving an outcome is a step of the pull whose request waits for it. -/
theorem receive {pull : ℕ} {c : Client} {request : Request}
    (h : c.waiting pull = some request) (outcome : Outcome) :
    Goes {pull} c (c.receive pull ⟨request, outcome⟩) := by
  refine ⟨⟨[.receive pull outcome], (Client.step_receive h outcome).symm⟩, fun other hother => ?_⟩
  unfold Client.receive
  dsimp only
  rw [Function.update_of_ne hother]

end Goes

/-! ## Processes -/

/-- What is left of a process where it has stopped, if it asks. -/
def AsksFrom {α : Type} (Q : Option Request → α → Prop) (waiting : Option Request) :
    Stop World α → Prop
  | .finished a => Q waiting a
  | .waiting _ _ next => Asks Q waiting next
  | .givingWay next => Asks Q waiting next

/-- A process that looks at the state goes on with what it makes of it. -/
theorem Machine.run_look {σ α : Type} {next : σ → Process σ α} {m : Machine σ} {p : Process σ α}
    (h : next m.state = p) : m.run (.look next) = m.run p := by
  rw [← h]
  rfl

/-- While a process that asks has the world to itself, the client of the world takes some steps of
one pull. -/
theorem Asks.exists_run {α : Type} {Q : Option Request → α → Prop} {waiting : Option Request}
    {p : Act α} (hp : Asks Q waiting p) {m : Machine World} {c : Client} {pull : ℕ}
    (hc : Serves c m.state) (hwaiting : c.waiting pull = waiting) :
    ∃ after, Goes {pull} c after ∧ Serves after (m.run p).2.state ∧
      AsksFrom Q (after.waiting pull) (m.run p).1 := by
  -- Where a step is quiet, the client stays as it is; in between, its steps are those of `Asks`.
  induction hp generalizing m c with
  | done h =>
    refine ⟨c, .refl _ c, hc, ?_⟩
    rw [hwaiting]
    exact h
  | look _ ih => exact ih m.state hc hwaiting
  | @change waiting f next hf _ ih => exact ih (hc.quiet (hf m.state)) hwaiting
  | @adjust waiting next f rest hnext hf _ ih =>
    rw [Machine.run_look (hnext m.state)]
    exact ih m.state (hc.quiet (hf m.state)) hwaiting
  | send t names _ ih =>
    -- The client of the world would make the same request.
    have hrequest : Request.make m.state.cursors m.state.node t names =
        ⟨t, c.cursors t, names, c.node⟩ := by
      rw [hc.cursors, hc.node]
      rfl
    obtain ⟨after, hgoes, hafter⟩ := ih m.state (hc.send pull ⟨t, c.cursors t, names, c.node⟩)
      (by rw [hrequest]; exact c.waiting_send_self pull _)
    exact ⟨after, (Goes.send hwaiting t names).trans hgoes, hafter⟩
  | @hand request next f rest hnext hf _ ih =>
    -- Nothing is handed over that does not wait, and what waits was sent.
    have hhanded : Serves c (f m.state m.state) :=
      hc.hand (hf m.state) (hc.sound.waiting pull request hwaiting)
    rw [Machine.run_look (hnext m.state)]
    exact ih m.state hhanded hwaiting
  | @receive request f next outcome hf _ ih =>
    let changed : Machine World := { m with state := f m.state }
    have hreceived : Serves (c.receive pull ⟨request, outcome⟩) (f m.state) :=
      hc.receive hwaiting (hf m.state)
    obtain ⟨after, hgoes, hafter⟩ :=
      ih (m := changed.enqueue changed.awake) hreceived (c.waiting_receive_self pull _)
    exact ⟨after, (Goes.receive hwaiting outcome).trans hgoes, hafter⟩
  | clock _ ih => exact ih m.now hc hwaiting
  | @timer waiting deadline next _ ih => exact ih ⟨deadline, m.timerCount⟩ hc hwaiting
  | @await waiting timers ready next h ih =>
    unfold Machine.run
    split
    · exact ih hc hwaiting
    · refine ⟨c, .refl _ c, hc, ?_⟩
      rw [hwaiting]
      exact h
  | pause h =>
    refine ⟨c, .refl _ c, hc, ?_⟩
    rw [hwaiting]
    exact h

/-- Where a process has stopped, or that it is not there, agrees with the request that waits. -/
def PullsFrom {α : Type} (waiting : Option Request) : Option (Stop World α) → Prop
  | none => waiting = none
  | some stop => AsksFrom (fun waiting _ => waiting = none) waiting stop

/-- What is left of a process that can go on asks if the process does. -/
theorem asks_of_next? {α : Type} {waiting : Option Request} {stop : Stop World α} {w : World}
    {now : ℕ} {p : Act α} (h : PullsFrom waiting (some stop)) (hp : stop.next? w now = some p) :
    Asks (fun waiting _ => waiting = none) waiting p := by
  cases stop with
  | finished a => cases hp
  | waiting timers ready next =>
    simp only [Stop.next?] at hp
    split at hp
    · cases hp
      exact h
    · cases hp
  | givingWay next =>
    cases hp
    exact h

namespace Machine

/-- Running a process leaves those in the background where they are. -/
theorem strands_run {σ α : Type} (p : Process σ α) (m : Machine σ) :
    (m.run p).2.strands = m.strands := by
  induction p generalizing m with
  | done a => rfl
  | look next ih => exact ih m.state m
  | change f next ih => exact ih _
  | clock next ih => exact ih m.now m
  | timer deadline next ih => exact ih _ _
  | await timers ready next ih =>
    unfold run
    split
    · exact ih m
    · rfl
  | pause next => rfl

/-! ## Pulls of processes -/

/-- The pull of a process in the background. -/
def strandPull (number : ℕ) : ℕ := 2 * number

/-- The pull of a process in front. -/
def frontPull (number : ℕ) : ℕ := 2 * number + 1

/-- The pulls of the processes in the background. -/
def strandPulls : Set ℕ := {pull | ∃ n, pull = strandPull n}

/-- The pulls of the processes in front from a number on. -/
def frontPulls (number : ℕ) : Set ℕ := {pull | ∃ n, number ≤ n ∧ pull = frontPull n}

/-- Processes in the background have different pulls. -/
theorem strandPull_inj {n k : ℕ} (h : strandPull n = strandPull k) : n = k := by
  unfold strandPull at h
  omega

/-- Processes in front have different pulls. -/
theorem frontPull_inj {n k : ℕ} (h : frontPull n = frontPull k) : n = k := by
  unfold frontPull at h
  omega

/-- A process in the background does not have the pull of one in front. -/
theorem strandPull_ne_frontPull (n k : ℕ) : strandPull n ≠ frontPull k := by
  unfold strandPull frontPull
  omega

/-- A process in the background is one of them. -/
theorem singleton_subset_strandPulls (number : ℕ) : {strandPull number} ⊆ strandPulls :=
  fun _ hpull => ⟨number, hpull⟩

/-- The first of some processes in front is one of them. -/
theorem singleton_subset_frontPulls (number : ℕ) : {frontPull number} ⊆ frontPulls number :=
  fun _ hpull => ⟨number, Nat.le_refl number, hpull⟩

/-- All processes in front but the first are processes in front. -/
theorem frontPulls_succ_subset (number : ℕ) : frontPulls (number + 1) ⊆ frontPulls number := by
  rintro pull ⟨n, hn, hpull⟩
  exact ⟨n, Nat.le_of_succ_le hn, hpull⟩

/-! ## The background -/

/-- A client tends a machine when it is that of its world, and every process in the background is
where its pull is. -/
structure Tends (c : Client) (m : Machine World) : Prop where
  serves : Serves c m.state
  strands : ∀ n, PullsFrom (c.waiting (strandPull n)) (m.strands[n]?.map Strand.stop)
  again : ∀ strand ∈ m.strands, ∀ body, strand.again = some body → Pulls body

/-- Running a process in the background, again and again if it starts anew, is some steps of its
pull. -/
theorem exists_runStrand {number : ℕ} {again : Option (Act Unit)}
    (hagain : ∀ body, again = some body → Pulls body) {steps : ℕ} {p : Act Unit}
    {m after : Machine World} {c : Client} (hc : Serves c m.state)
    (hp : Asks (fun waiting _ => waiting = none) (c.waiting (strandPull number)) p)
    (h : m.runStrand number again steps p = some after) :
    ∃ d stop rest, Goes {strandPull number} c d ∧ Serves d after.state ∧
      after.strands = m.strands.set number ⟨stop, rest⟩ ∧
      PullsFrom (d.waiting (strandPull number)) (some stop) ∧
      ∀ body, rest = some body → Pulls body := by
  induction steps generalizing p m c with
  | zero => cases h
  | succ steps ih =>
    obtain ⟨d, hgoes, hserves, hstop⟩ := hp.exists_run hc rfl
    have hstrands := strands_run p m
    unfold runStrand at h
    generalize run p m = result at h hserves hstop hstrands
    obtain ⟨stop, middle⟩ := result
    cases stop with
    | finished a =>
      dsimp only at h hserves hstop hstrands
      cases again with
      | none =>
        cases h
        refine ⟨d, .finished (), none, hgoes, hserves, ?_, hstop, fun body hbody => ?_⟩
        · rw [← hstrands]
        · cases hbody
      | some body =>
        -- It starts anew, with the request of the last time answered.
        have hbody : Asks (fun waiting (_ : Unit) => waiting = none) (d.waiting (strandPull number))
            body := by
          rw [show d.waiting (strandPull number) = none from hstop]
          exact hagain body rfl
        obtain ⟨e, stop, rest, hgoes', hserves', hset, hrest⟩ := ih hserves hbody h
        refine ⟨e, stop, rest, hgoes.trans hgoes', hserves', ?_, hrest⟩
        rw [hset, hstrands]
    | waiting timers ready next =>
      cases h
      refine ⟨d, .waiting timers ready next, again, hgoes, hserves, ?_, hstop, hagain⟩
      rw [← hstrands]
    | givingWay next =>
      cases h
      refine ⟨d, .givingWay next, again, hgoes, hserves, ?_, hstop, hagain⟩
      rw [← hstrands]

/-- Other processes in the background are not concerned when one of them goes on. -/
theorem Tends.set {c d : Client} {m after : Machine World} (hc : Tends c m) {number : ℕ}
    {stop : Stop World Unit} {rest : Option (Act Unit)} (hnumber : number < m.strands.length)
    (hgoes : Goes {strandPull number} c d) (hserves : Serves d after.state)
    (hstrands : after.strands = m.strands.set number ⟨stop, rest⟩)
    (hstop : PullsFrom (d.waiting (strandPull number)) (some stop))
    (hrest : ∀ body, rest = some body → Pulls body) : Tends d after := by
  refine ⟨hserves, fun n => ?_, fun strand hstrand body hbody => ?_⟩
  · rw [hstrands]
    by_cases hn : n = number
    · rw [hn, List.getElem?_set_self hnumber]
      exact hstop
    · have hother : strandPull n ∉ ({strandPull number} : Set ℕ) :=
        fun hmem => hn (strandPull_inj hmem)
      rw [List.getElem?_set_ne (Ne.symm hn), hgoes.2 _ hother]
      exact hc.strands n
  · rw [hstrands] at hstrand
    rcases List.mem_or_eq_of_mem_set hstrand with hmem | rfl
    · exact hc.again strand hmem body hbody
    · exact hrest body hbody

/-- Running what is queued is some steps of the pulls in the background. -/
theorem Tends.drain {steps : ℕ} {m after : Machine World} {c : Client} (hc : Tends c m)
    (h : m.drain steps = some after) : ∃ d, Goes strandPulls c d ∧ Tends d after := by
  induction steps generalizing m c with
  | zero => cases h
  | succ steps ih =>
    unfold Machine.drain at h
    split at h
    · cases h
      exact ⟨c, .refl _ c, hc⟩
    · rename_i number queue hqueue
      have hrest : Tends c { m with queue := queue } := ⟨hc.serves, hc.strands, hc.again⟩
      dsimp only at h
      split at h
      · exact ih hrest h
      · rename_i strand hstrand
        split at h
        · exact ih hrest h
        · rename_i p hp
          split at h
          · rename_i middle hmiddle
            have hpulls := hc.strands number
            rw [hstrand] at hpulls
            obtain ⟨d, stop, rest, hgoes, hserves, hset, hstop, hagain⟩ :=
              exists_runStrand (m := { m with queue := queue })
                (hc.again strand (List.mem_of_getElem? hstrand)) hc.serves
                (asks_of_next? hpulls hp) hmiddle
            have hnumber := (List.getElem?_eq_some_iff.1 hstrand).1
            obtain ⟨e, hgoes', he⟩ := ih (hrest.set hnumber hgoes hserves hset hstop hagain) h
            exact ⟨e, (hgoes.mono (singleton_subset_strandPulls number)).trans hgoes', he⟩
          · cases h

/-! ## The front -/

/-- The processes in front, from a number on, are where their pulls are. -/
def Fronts {α : Type} (c : Client) (number : ℕ) (front : List (Stop World α)) : Prop :=
  ∀ n, PullsFrom (c.waiting (frontPull (number + n))) front[n]?

/-- The first of the processes in front, and the others. -/
theorem fronts_cons_iff {α : Type} {c : Client} {number : ℕ} {stop : Stop World α}
    {rest : List (Stop World α)} :
    Fronts c number (stop :: rest) ↔
      PullsFrom (c.waiting (frontPull number)) (some stop) ∧ Fronts c (number + 1) rest := by
  constructor
  · intro h
    refine ⟨h 0, fun n => ?_⟩
    rw [Nat.add_right_comm]
    exact h (n + 1)
  · rintro ⟨hstop, hrest⟩ n
    cases n with
    | zero => exact hstop
    | succ n =>
      have hnumber : number + (n + 1) = number + 1 + n := by omega
      rw [hnumber]
      exact hrest n

/-- Processes in front are not concerned when others go on. -/
theorem Fronts.goes {α : Type} {c d : Client} {number : ℕ} {front : List (Stop World α)}
    (h : Fronts c number front) {pulls : Set ℕ} (hgoes : Goes pulls c d)
    (hothers : ∀ n, number ≤ n → frontPull n ∉ pulls) : Fronts d number front := by
  intro n
  rw [hgoes.2 _ (hothers (number + n) (Nat.le_add_right number n))]
  exact h n

/-- Processes in the background are not concerned when others go on. -/
theorem Tends.front {c d : Client} {m after : Machine World} (hc : Tends c m) {number : ℕ}
    (hgoes : Goes (frontPulls number) c d) (hserves : Serves d after.state)
    (hstrands : after.strands = m.strands) : Tends d after := by
  refine ⟨hserves, fun n => ?_, ?_⟩
  · have hother : strandPull n ∉ frontPulls number := by
      rintro ⟨k, -, hk⟩
      exact strandPull_ne_frontPull n k hk
    rw [hstrands, hgoes.2 _ hother]
    exact hc.strands n
  · rw [hstrands]
    exact hc.again

/-- Lets a process in front go on, if it can. -/
def goOn {α : Type} (m : Machine World) (stop : Stop World α) : Stop World α × Machine World :=
  match stop.next? m.state m.now with
  | some p => m.run p
  | none => (stop, m)

/-- The processes in front go on one after another. -/
theorem runFront_cons {α : Type} (m : Machine World) (stop : Stop World α)
    (rest : List (Stop World α)) :
    m.runFront (stop :: rest) =
      ((m.goOn stop).1 :: ((m.goOn stop).2.runFront rest).1,
        ((m.goOn stop).2.runFront rest).2) := by
  rw [Machine.runFront]
  unfold goOn
  cases stop.next? m.state m.now <;> rfl

/-- Letting a process in front go on is some steps of its pull. -/
theorem Tends.goOn {α : Type} {stop : Stop World α} {m : Machine World} {c : Client} {number : ℕ}
    (hc : Tends c m) (hstop : PullsFrom (c.waiting (frontPull number)) (some stop)) :
    ∃ d, Goes {frontPull number} c d ∧ Tends d (m.goOn stop).2 ∧
      PullsFrom (d.waiting (frontPull number)) (some (m.goOn stop).1) := by
  unfold Machine.goOn
  cases hnext : stop.next? m.state m.now with
  | none => exact ⟨c, .refl _ c, hc, hstop⟩
  | some p =>
    obtain ⟨d, hgoes, hserves, hp⟩ := (asks_of_next? hstop hnext).exists_run hc.serves rfl
    have hothers : Goes (frontPulls number) c d := hgoes.mono (singleton_subset_frontPulls number)
    exact ⟨d, hgoes, hc.front hothers hserves (strands_run p m), hp⟩

/-- Letting the processes in front go on is some steps of their pulls. -/
theorem Tends.runFront {α : Type} {front : List (Stop World α)} {m : Machine World} {c : Client}
    {number : ℕ} (hc : Tends c m) (hfront : Fronts c number front) :
    ∃ d, Goes (frontPulls number) c d ∧ Tends d (m.runFront front).2 ∧
      Fronts d number (m.runFront front).1 := by
  induction front generalizing m c number with
  | nil => exact ⟨c, .refl _ c, hc, hfront⟩
  | cons stop rest ih =>
    obtain ⟨hstop, hrest⟩ := fronts_cons_iff.1 hfront
    obtain ⟨d, hgoes, hd, hstop⟩ := hc.goOn hstop
    have hrest : Fronts d (number + 1) rest := by
      refine hrest.goes hgoes fun n hn hmem => ?_
      have heq := frontPull_inj hmem
      omega
    obtain ⟨e, hgoes', he, hrest⟩ := ih hd hrest
    -- The others leave the first one where it has stopped.
    have hother : frontPull number ∉ frontPulls (number + 1) := by
      rintro ⟨k, hk, hnumber⟩
      have heq := frontPull_inj hnumber
      omega
    rw [← hgoes'.2 _ hother] at hstop
    rw [runFront_cons]
    refine ⟨e, ?_, he, fronts_cons_iff.2 ⟨hstop, hrest⟩⟩
    exact (hgoes.mono (singleton_subset_frontPulls number)).trans
      (hgoes'.mono (frontPulls_succ_subset number))

/-- Processes in front that are finished have no request waiting. -/
theorem Fronts.waiting_eq_none {α : Type} {c : Client} {number : ℕ} {front : List (Stop World α)}
    (hfront : Fronts c number front) {results : List α}
    (h : front.mapM Stop.result? = some results) (n : ℕ) :
    c.waiting (frontPull (number + n)) = none := by
  induction front generalizing number results n with
  | nil => exact hfront n
  | cons stop rest ih =>
    obtain ⟨hstop, hrest⟩ := fronts_cons_iff.1 hfront
    rw [List.mapM_cons] at h
    obtain ⟨a, ha, h⟩ := Option.bind_eq_some_iff.1 h
    obtain ⟨others, hothers, -⟩ := Option.bind_eq_some_iff.1 h
    cases n with
    | zero =>
      cases stop with
      | finished b => exact hstop
      | waiting timers ready next => cases ha
      | givingWay next => cases ha
    | succ n =>
      have hnumber : number + (n + 1) = number + 1 + n := by omega
      rw [hnumber]
      exact ih hrest hothers n

/-- A client tends a machine at rest when nobody is in front. -/
def Rests (c : Client) (m : Machine World) : Prop :=
  Tends c m ∧ ∀ n, c.waiting (frontPull n) = none

/-- Running until the processes in front are finished is some steps of the client. -/
theorem Tends.finish {α : Type} {steps : ℕ} {front : List (Stop World α)} {m after : Machine World}
    {results : List α} {c : Client} (hc : Tends c m) (hfront : Fronts c 0 front)
    (h : m.finish front steps = some (results, after)) :
    ∃ d, Goes Set.univ c d ∧ Rests d after := by
  -- A turn of those in front, then one of those in the background, and then perhaps some time.
  induction steps generalizing m front c with
  | zero => cases h
  | succ steps ih =>
    obtain ⟨d, hgoes, hd, hdfront⟩ := hc.runFront hfront
    have hgoes : Goes Set.univ c d := hgoes.mono fun _ _ => trivial
    unfold Machine.finish at h
    generalize m.runFront front = turn at h hd hdfront
    obtain ⟨front, middle⟩ := turn
    dsimp only at h hd hdfront
    split at h
    · rename_i hresults
      cases h
      refine ⟨d, hgoes, hd, fun n => ?_⟩
      have hwaiting := hdfront.waiting_eq_none hresults n
      rwa [Nat.zero_add] at hwaiting
    · split at h
      · cases h
      · rename_i drained hdrained
        obtain ⟨e, hgoes', he⟩ := hd.drain hdrained
        have hefront : Fronts e 0 front := by
          refine hdfront.goes hgoes' fun n _ hmem => ?_
          obtain ⟨k, hk⟩ := hmem
          exact strandPull_ne_frontPull k n hk.symm
        have hgoes : Goes Set.univ c e := hgoes.trans (hgoes'.mono fun _ _ => trivial)
        split at h
        · obtain ⟨f, hgoes', hf⟩ := ih he hefront h
          exact ⟨f, hgoes.trans hgoes', hf⟩
        · split at h
          · cases h
          · rename_i time htime
            have hlater : Tends e (drained.advance time) := ⟨he.serves, he.strands, he.again⟩
            obtain ⟨f, hgoes', hf⟩ := ih hlater hefront h
            exact ⟨f, hgoes.trans hgoes', hf⟩

/-- Running processes in front to their ends is some steps of the client. -/
theorem Rests.complete {α : Type} {front : List (Act α)} {m after : Machine World}
    {results : List α} {c : Client} (hc : Rests c m) (hfront : ∀ p ∈ front, Pulls p)
    (h : m.complete front = some (results, after)) : ∃ d, Goes Set.univ c d ∧ Rests d after := by
  refine hc.1.finish (fun n => ?_) h
  rw [hc.2, List.getElem?_map]
  cases hp : front[n]? with
  | none => rfl
  | some p => exact hfront p (List.mem_of_getElem? hp)

end Machine

end SidecarAgent.Simulation
