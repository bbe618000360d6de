import SidecarAgent.Proofs.RehearsedSteps
import SidecarAgent.Proofs.TakingTurns
import SidecarAgent.Simulation.Scenario

/-!
# Rehearsals and their client

A rehearsal is carried out step by step, while the loops that were started before go on in the
background.  All its processes pull, so the cursors of its world are those of a client after some
schedule, and what has reached the control plane was sent by that client (`exists_client_of_steps`).
-/

namespace SidecarAgent.Simulation

open Discovery

namespace Machine

/-! ## Steps -/

/-- A new process in the background begins without a request. -/
theorem Rests.spawn {c : Client} {m : Machine World} (hc : Rests c m) {strand : Strand World}
    (hstop : PullsFrom none (some strand.stop))
    (hagain : ∀ body, strand.again = some body → Pulls body) : Rests c (m.spawn strand) := by
  refine ⟨⟨hc.1.serves, fun n => ?_, fun other hother body hbody => ?_⟩, hc.2⟩
  · have hn := hc.1.strands n
    unfold Machine.spawn
    dsimp only
    rcases Nat.lt_or_ge n m.strands.length with hlt | hge
    · rwa [List.getElem?_append_left hlt]
    · -- The place is free, so no request waits for it.
      rw [List.getElem?_eq_none hge] at hn
      have hwaiting : c.waiting (strandPull n) = none := hn
      rw [List.getElem?_append_right hge, hwaiting]
      cases n - m.strands.length with
      | zero => exact hstop
      | succ k => rfl
  · rcases List.mem_append.1 hother with hmem | hmem
    · exact hc.1.again other hmem body hbody
    · rw [List.mem_singleton.1 hmem] at hbody
      exact hagain body hbody

/-- A process that pulls may be sent into the background. -/
theorem Rests.spawn_once {c : Client} {m : Machine World} (hc : Rests c m) {p : Act Unit}
    (hp : Pulls p) : Rests c (m.spawn (.once p)) := by
  refine hc.spawn hp fun body hbody => ?_
  cases hbody

/-- A process that pulls may be sent into the background to start anew again and again. -/
theorem Rests.spawn_forever {c : Client} {m : Machine World} (hc : Rests c m) {p : Act Unit}
    (hp : Pulls p) : Rests c (m.spawn (.forever p)) := by
  refine hc.spawn hp fun body hbody => ?_
  cases hbody
  exact hp

/-- After a quiet change the client is still that of the machine. -/
theorem Rests.quiet {c : Client} {m : Machine World} (hc : Rests c m) {w : World}
    (hw : Quiet m.state w) : Rests c { m with state := w } :=
  ⟨⟨hc.1.serves.quiet hw, hc.1.strands, hc.1.again⟩, hc.2⟩

end Machine

/-- The loops of a manager are taken quietly, and each of them pulls. -/
theorem World.startLoops_spec (w : World) (manager : String) :
    Quiet w (w.startLoops manager).1 ∧
      ∀ strand ∈ (w.startLoops manager).2, ∃ p, Pulls p ∧ strand = .forever p := by
  unfold startLoops
  generalize (w.manager manager).view.sources = sources
  refine List.foldlRecOn sources _ (motive := fun loops : World × List (Strand World) =>
    Quiet w loops.1 ∧ ∀ strand ∈ loops.2, ∃ p, Pulls p ∧ strand = .forever p) ?_ ?_
  · refine ⟨.refl w, fun strand hstrand => ?_⟩
    cases hstrand
  · rintro ⟨v, strands⟩ ⟨hv, hstrands⟩ r hr
    refine ⟨hv.trans (v.quiet_takeLoop r.source), fun strand hstrand => ?_⟩
    dsimp only at hstrand
    split at hstrand
    · rcases List.mem_append.1 hstrand with hmem | hmem
      · exact hstrands strand hmem
      · exact ⟨_, Act.pulls_loopRound manager r.source, List.mem_singleton.1 hmem⟩
    · exact hstrands strand hstrand

namespace Machine

/-- Sending loops into the background keeps a machine at rest. -/
theorem Rests.spawnAll {c : Client} {m : Machine World} (hc : Rests c m)
    {strands : List (Strand World)}
    (hstrands : ∀ strand ∈ strands, ∃ p, Pulls p ∧ strand = .forever p) :
    Rests c (strands.foldl Machine.spawn m) := by
  refine List.foldlRecOn strands Machine.spawn (motive := Rests c) hc
    fun middle hmiddle strand hstrand => ?_
  obtain ⟨p, hp, rfl⟩ := hstrands strand hstrand
  exact hmiddle.spawn_forever hp

end Machine

namespace Step

open Machine

/-- What a step sends into the background pulls. -/
theorem rests_launch (s : Step) {c : Client} {m : Machine World} (hc : Rests c m) :
    Rests c (s.launch m) := by
  unfold launch
  split
  · rename_i manager
    obtain ⟨hquiet, hstrands⟩ := m.state.startLoops_spec manager
    exact (hc.quiet hquiet).spawnAll hstrands
  · split
    · exact hc.spawn_once (Act.pulls_sendLater _ _ _)
    · exact hc
  · exact hc

/-- What a step has in front pulls. -/
theorem pulls_front (s : Step) : ∀ p ∈ s.front, Pulls p := by
  intro p hp
  unfold front at hp
  split at hp
  · rename_i cluster
    rcases List.mem_cons.1 hp with rfl | hp
    · exact Act.pulls_answer _ _
    · rw [List.mem_singleton.1 hp]
      exact Act.pulls_answer _ _
  · rw [List.mem_singleton.1 hp]
    exact Act.pulls_step _

/-- A step of a rehearsal is some steps of the client. -/
theorem rests_perform (s : Step) {c : Client} {m after : Machine World} {reply : Reply}
    (hc : Rests c m) (h : s.perform m = some (reply, after)) :
    ∃ d, Goes Set.univ c d ∧ Rests d after := by
  obtain ⟨⟨replies, middle⟩, hmiddle, hafter⟩ := Option.map_eq_some_iff.1 h
  cases hafter
  exact (s.rests_launch hc).complete s.pulls_front hmiddle

end Step

/-! ## Scenarios -/

/-- The machine after some steps, if they can all be carried out. -/
def Machine.after? (m : Machine World) (steps : List Step) : Option (Machine World) :=
  steps.foldlM (fun m s => (s.perform m).map Prod.snd) m

/-- Steps can be carried out when they have replies. -/
theorem isSome_performAll (steps : List Step) (m : Machine World) :
    (performAll steps m).isSome = (m.after? steps).isSome := by
  induction steps generalizing m with
  | nil => rfl
  | cons s rest ih =>
    unfold performAll Machine.after?
    rw [List.foldlM_cons]
    cases hs : s.perform m with
    | none => rfl
    | some result =>
      rw [Option.isSome_map]
      exact ih result.2

/-- Steps of a rehearsal are steps of the client. -/
theorem Machine.Rests.after? {steps : List Step} {m after : Machine World} {c : Client}
    (hc : Rests c m) (h : m.after? steps = some after) :
    ∃ d, Goes Set.univ c d ∧ Rests d after := by
  induction steps generalizing m c with
  | nil =>
    cases h
    exact ⟨c, .refl _ c, hc⟩
  | cons s rest ih =>
    unfold Machine.after? at h
    rw [List.foldlM_cons] at h
    obtain ⟨middle, hmiddle, h⟩ := Option.bind_eq_some_iff.1 h
    obtain ⟨⟨reply, performed⟩, hperformed, rfl⟩ := Option.map_eq_some_iff.1 hmiddle
    obtain ⟨d, hgoes, hd⟩ := s.rests_perform hc hperformed
    obtain ⟨e, hgoes', he⟩ := ih hd h
    exact ⟨e, hgoes.trans hgoes', he⟩

/-- In the course of a rehearsal the cursors are those of a client after some schedule, and what has
reached the control plane was sent by this client. -/
theorem exists_client_of_steps {start : World} (hcursors : start.cursors = Cursors.start)
    (hrequests : start.controlPlane.requests = []) {steps : List Step} {m : Machine World}
    (h : Machine.after? { state := start } steps = some m) :
    ∃ schedule, Serves ((Client.start start.node).run schedule) m.state := by
  have hstart : Serves (Client.start start.node) start := by
    refine ⟨Client.sound_start start.node, rfl, hcursors, fun request hrequest => ?_⟩
    rw [hrequests] at hrequest
    cases hrequest
  have hrests : Machine.Rests (Client.start start.node) { state := start } := by
    refine ⟨⟨hstart, fun n => rfl, fun strand hstrand => ?_⟩, fun n => rfl⟩
    cases hstrand
  obtain ⟨d, ⟨⟨schedule, rfl⟩, -⟩, hd⟩ := Machine.Rests.after? hrests h
  exact ⟨schedule, hd.1.serves⟩

end SidecarAgent.Simulation
