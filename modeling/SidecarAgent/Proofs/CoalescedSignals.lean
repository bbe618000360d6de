import SidecarAgent.Proofs.InterleavedWaits
import SidecarAgent.Refresh.Limits

/-!
# Signals are bounded and coalesced

A queue has room for a number of signals, and a wakeup answers all of them: it names the first and
drops the others.  What decides its reason are the signals that were accepted until the wait last
looked for one (`Vigil.Accounted.key?_eq_head?`).  A signal that comes behind this look, while the
wait takes its tick or empties the queue, is lost with the wakeup, be it by a tick
(`Vigil.signal_lost_to_tick`); each other is answered by the first wakeup behind it.  None is
answered by a later one.
-/

namespace SidecarAgent.Refresh

namespace Vigil

variable {unit start period capacity : Nat} {past between later history : List Act} {w v : Vigil}
  {t : Nat} {reason : Wakeup}

/-! ## One act -/

/-- A signal can be sent as long as a trigger is left, and is accepted if the scheduler is there and
its queue has room beside what was accepted since the last wakeup and not taken yet. -/
theorem Accounted.exists_send_iff (h : Accounted capacity past w) {key : String} {accepted : Bool} :
    (∃ v, w.after? (.send key accepted) = some v) ↔
      drops past ≠ copies past + 1 ∧ (accepted = true ↔
        (∀ a ∈ past, a ≠ .close) ∧
          (acceptedSince past).length < max capacity 1 + (takenSince past).length) := by
  have hleft : w.queue.senders ≠ 0 ↔ drops past ≠ copies past + 1 := by
    have htriggers := h.triggers
    omega
  have hroom : w.queue.receiving = true → (w.queue.signals.length < w.queue.capacity ↔
      (acceptedSince past).length < max capacity 1 + (takenSince past).length) := by
    intro halive
    rw [← h.queued halive, List.length_append, h.capacity]
    omega
  rw [← hleft, ← h.alive]
  constructor
  · rintro ⟨v, hv⟩
    have hundergoes := after?_eq_some_iff.1 hv
    cases hundergoes with
    | accepted htrigger halive hless =>
      exact ⟨htrigger, iff_of_true rfl ⟨halive, (hroom halive).1 hless⟩⟩
    | refused htrigger hfull =>
      refine ⟨htrigger, iff_of_false Bool.false_ne_true fun ⟨halive, hless⟩ => ?_⟩
      exact absurd ((hroom halive).2 hless) (Nat.not_lt.2 (hfull halive))
  · rintro ⟨htrigger, haccepted⟩
    cases accepted with
    | true =>
      obtain ⟨halive, hless⟩ := haccepted.1 rfl
      exact ⟨_, after?_eq_some_iff.2 (.accepted htrigger halive ((hroom halive).2 hless))⟩
    | false =>
      refine ⟨_, after?_eq_some_iff.2 (.refused htrigger fun halive => Nat.not_lt.1 fun hless =>
        ?_)⟩
      exact Bool.false_ne_true (haccepted.2 ⟨halive, (hroom halive).1 hless⟩)

/-- A wakeup is by a signal exactly if one was accepted between the wakeup before and the last look,
and names the first of them. -/
theorem Accounted.key?_eq_head? (h : Accounted capacity past w)
    (hafter : w.after? (.step t (.finished reason)) = some v) :
    (∃ a ∈ sinceWakeup past, a.isLook = true) ∧
      reason.key? = (acceptedSince (untilLook past)).head? := by
  have hundergoes := after?_eq_some_iff.1 hafter
  cases hundergoes with
  | finished hstage _ => exact h.found _ _ hstage rfl

/-- When a wait ends, all that was accepted since the wakeup before is taken, and nothing is queued.
-/
theorem Accounted.drained (h : Accounted capacity past w)
    (hafter : w.after? (.step t (.finished reason)) = some v) :
    takenSince past = acceptedSince past ∧ v.queue.signals = [] := by
  have hundergoes := after?_eq_some_iff.1 hafter
  cases hundergoes with
  | finished hstage hqueued =>
    have hall := h.queued (h.waiting (by simp [hstage]))
    rw [hqueued, List.append_nil] at hall
    exact ⟨hall, hqueued⟩

/-- A wait that finds a signal when it looks for one finds the first, and can end with it. -/
theorem Accounted.finds_signal (h : Accounted capacity past w) (hstage : w.stage = some .receive)
    {key : String} {rest : List String} (hkeys : acceptedSince past = key :: rest) (now : Nat) :
    (∀ finding v, w.after? (.step now finding) = some v → finding = .signal key) ∧
      ∃ findings v, w.run? (alone now (findings ++ [.finished (.signal key)])) = some v := by
  have hqueued : w.queue.signals = key :: rest := by
    have halive := h.waiting (by simp [hstage])
    rw [← hkeys, ← h.queued halive, h.untaken halive (by simp [hstage]), List.nil_append]
  constructor
  · intro finding v hafter
    have hundergoes := after?_eq_some_iff.1 hafter
    cases hundergoes with
    | received _ hsome => exact congrArg Finding.signal (List.cons.inj (hsome.symm.trans hqueued)).1
    | missed _ hnone => cases hnone.symm.trans hqueued
    | ticked hother _ => cases hother.symm.trans hstage
    | slept hother _ => cases hother.symm.trans hstage
    | discarded hother _ => cases hother.symm.trans hstage
    | finished hother _ => cases hother.symm.trans hstage
  · obtain ⟨scheduler, stage⟩ := w
    cases hstage
    obtain ⟨findings, hrun⟩ := wake?_eq_some_iff.1 (Scheduler.wake?_of_queued hqueued)
    exact ⟨findings, _, hrun⟩

/-! ## What was accepted -/

/-- As long as there is no wakeup, what is accepted is added. -/
theorem acceptedSince_append (h : ∀ a ∈ between, a.isWakeup = false) :
    acceptedSince (past ++ between) = acceptedSince past ++ acceptedIn between := by
  unfold acceptedSince acceptedIn
  rw [sinceWakeup_append h, List.filterMap_append]

/-- Behind a wakeup, what was accepted since is what was accepted behind it. -/
theorem acceptedSince_append_cons {a : Act} (ha : a.isWakeup = true)
    (h : ∀ a ∈ between, a.isWakeup = false) :
    acceptedSince (past ++ a :: between) = acceptedIn between := by
  unfold acceptedSince
  rw [sinceWakeup_append_cons ha h]

/-- Where nothing is accepted, nothing is in a part of it. -/
theorem acceptedIn_eq_nil_of_part {part : List Act} (h : acceptedIn between = [])
    (hpart : ∀ a ∈ part, a ∈ between) : acceptedIn part = [] :=
  List.filterMap_eq_nil_iff.2 fun a ha => List.filterMap_eq_nil_iff.1 h a (hpart a ha)

/-- When no trigger is left, no signal is accepted any more. -/
theorem acceptedIn_eq_nil_of_senders (h : w.run? later = some v) (hsenders : w.queue.senders = 0) :
    acceptedIn later = [] := by
  induction later generalizing w with
  | nil => rfl
  | cons a rest ih =>
    obtain ⟨u, hu, hrest⟩ := run?_cons_eq_some_iff.1 h
    have hundergoes := after?_eq_some_iff.1 hu
    have hnone : u.queue.senders = 0 ∧ a.accepted? = none := by
      cases hundergoes with
      | accepted htrigger _ _ => exact absurd hsenders htrigger
      | copied htrigger => exact absurd hsenders htrigger
      | dropped htrigger => exact absurd hsenders htrigger
      | _ => exact ⟨hsenders, rfl⟩
    unfold acceptedIn
    rw [List.filterMap_cons, hnone.2]
    exact ih hrest hnone.1

/-! ## Two wakeups, and what is between them -/

/-- In a history, a wakeup is decided by what was accepted until the last look. -/
theorem key?_eq_head?_of_run?
    (h : (Vigil.start unit start period capacity).run?
      (past ++ .step t (.finished reason) :: later) = some w) :
    (∃ a ∈ sinceWakeup past, a.isLook = true) ∧
      reason.key? = (acceptedSince (untilLook past)).head? := by
  obtain ⟨x, y, hx, hy, -⟩ := run?_append_cons_eq_some_iff.1 h
  exact (accounted_of_run? hx).key?_eq_head? hy

/-- The wakeup behind another is decided by what was accepted between them, until the last look. -/
theorem key?_eq_head?_of_wakeup {a : Act} (ha : a.isWakeup = true)
    (h : (Vigil.start unit start period capacity).run?
      (past ++ a :: (between ++ .step t (.finished reason) :: later)) = some w)
    (hbetween : ∀ a ∈ between, a.isWakeup = false) :
    reason.key? = (acceptedIn (untilLook between)).head? := by
  rw [← List.cons_append, ← List.append_assoc] at h
  obtain ⟨hlook, hkey⟩ := key?_eq_head?_of_run? h
  rw [sinceWakeup_append_cons ha hbetween] at hlook
  rw [List.append_cons, untilLook_append_of_exists hlook, ← List.append_cons,
    acceptedSince_append_cons ha fun e he => hbetween e (mem_of_mem_untilLook he)] at hkey
  exact hkey

/-! ## Histories -/

/-- However the triggers and the waits of a scheduler are interleaved, a signal is accepted exactly
if the scheduler is there and fewer signals than its queue has room for, which is one at least, were
accepted since the last wakeup and not yet taken; and nothing is taken before a wait has found what
it ends for.

A wait that looks for a signal finds the first that was accepted since the last wakeup, and can end
with it; if nothing comes between its steps, it does what the wait does that is run as a whole.  A
wakeup is by a signal exactly if one was accepted between the wakeup before and the time at which
the wait last looked for one, and names the first of these.  All others that were accepted until the
wakeup are discarded, so that nothing is queued.

So the first wakeup behind an accepted signal is by a signal if the wait has looked behind it, and
is otherwise what it was going to be before; no later one names it.  When all triggers are gone, the
next wait that looks finds what they have sent, one wakeup answers it, and all others are ticks. -/
theorem signals_bounded_and_coalesced
    (h : (Vigil.start unit start period capacity).run? history = some w) :
    (∀ key accepted, (∃ v, w.after? (.send key accepted) = some v) ↔
      drops history ≠ copies history + 1 ∧ (accepted = true ↔
        (∀ a ∈ history, a ≠ .close) ∧
          (acceptedSince history).length < max capacity 1 + (takenSince history).length)) ∧
    ((∀ a ∈ history, a ≠ .close) → (∀ reason, w.stage ≠ some (.drain reason)) →
      takenSince history = []) ∧
    (∀ t reason v, w.after? (.step t (.finished reason)) = some v →
      reason.key? = (acceptedSince (untilLook history)).head? ∧
        takenSince history = acceptedSince history ∧ v.queue.signals = []) ∧
    (w.stage = some .receive → ∀ key rest, acceptedSince history = key :: rest → ∀ now,
      (∀ finding v, w.after? (.step now finding) = some v → finding = .signal key) ∧
        ∃ findings v, w.run? (alone now (findings ++ [.finished (.signal key)])) = some v) ∧
    (w.stage = some .receive → ∀ now reason s, w.scheduler.wake? now = some (reason, s) ↔
      ∃ findings, w.run? (alone now (findings ++ [.finished reason])) = some ⟨s, none⟩) ∧
    (∀ (past : List Act) key (between : List Act) t reason later,
      history = past ++ .send key true :: (between ++ .step t (.finished reason) :: later) →
      (∀ a ∈ between, a.isWakeup = false) →
      ((∃ a ∈ between, a.isLook = true) → reason ≠ .tick) ∧
        ((∀ a ∈ between, a.isLook = false) →
          reason.key? = (acceptedSince (untilLook past)).head?)) ∧
    (∀ (past : List Act) s earlier (between : List Act) t reason later,
      history = past ++ .step s (.finished earlier) ::
        (between ++ .step t (.finished reason) :: later) →
      (∀ a ∈ between, a.isWakeup = false) →
      reason.key? = (acceptedIn (untilLook between)).head?) ∧
    ∀ (past between : List Act) t reason later,
      history = past ++ (between ++ .step t (.finished reason) :: later) →
      drops past = copies past + 1 →
      ((∀ a ∈ between, a.isWakeup = false) → (∃ a ∈ between, a.isLook = true) →
        reason.key? = (acceptedSince past).head?) ∧
      ((∃ a ∈ between, a.isWakeup = true) → reason = .tick) := by
  have haccounted := accounted_of_run? h
  refine ⟨fun key accepted => haccounted.exists_send_iff,
    fun halive => haccounted.untaken (haccounted.alive.2 halive),
    fun t reason v hv => ⟨(haccounted.key?_eq_head? hv).2, haccounted.drained hv⟩,
    fun hstage key rest hkeys now => haccounted.finds_signal hstage hkeys now,
    fun hstage now reason s => ?_, ?_, ?_, ?_⟩
  · obtain ⟨scheduler, stage⟩ := w
    cases hstage
    exact wake?_eq_some_iff
  · rintro past key between t reason later rfl hquiet
    rw [← List.cons_append, ← List.append_assoc] at h
    obtain ⟨-, hkey⟩ := key?_eq_head?_of_run? h
    rw [List.append_cons] at hkey
    constructor
    · rintro hlook rfl
      -- the signal was accepted before the last look, so that this look has found one
      rw [untilLook_append_of_exists hlook,
        acceptedSince_append fun e he => hquiet e (mem_of_mem_untilLook he),
        acceptedSince_concat rfl] at hkey
      cases hpast : acceptedSince past <;> rw [hpast] at hkey <;> cases hkey
    · intro hlook
      rwa [untilLook_append hlook, untilLook_concat_of_not_isLook rfl] at hkey
  · rintro past s earlier between t reason later rfl hquiet
    exact key?_eq_head?_of_wakeup rfl h hquiet
  · rintro past between t reason later rfl hgone
    obtain ⟨x, hx, hlater⟩ := run?_append_eq_some_iff.1 h
    obtain ⟨y, z, hy, -, -⟩ := run?_append_cons_eq_some_iff.1 hlater
    have hsenders : x.queue.senders = 0 := by
      have htriggers := (accounted_of_run? hx).triggers
      omega
    have hnone := acceptedIn_eq_nil_of_senders hy hsenders
    constructor
    · intro hquiet hlook
      rw [← List.append_assoc] at h
      obtain ⟨-, hkey⟩ := key?_eq_head?_of_run? h
      rwa [untilLook_append_of_exists hlook,
        acceptedSince_append fun e he => hquiet e (mem_of_mem_untilLook he),
        acceptedIn_eq_nil_of_part hnone fun _ => mem_of_mem_untilLook, List.append_nil] at hkey
    · intro hwakeup
      obtain ⟨before, a, behind, rfl, ha, hbehind⟩ := exists_last hwakeup
      rw [List.append_assoc, List.cons_append, ← List.append_assoc] at h
      have hkey := key?_eq_head?_of_wakeup ha h hbehind
      rw [acceptedIn_eq_nil_of_part hnone fun e he => by simp [mem_of_mem_untilLook he]] at hkey
      cases reason with
      | tick => rfl
      | signal key => cases hkey

/-- Of three signals to a queue with room for two the third is refused.  The second, and one that
comes while the queue is emptied, are dropped by the wakeup that names the first.  The one that a
trigger has sent before it was dropped is found by the next wait. -/
theorem signal_behind_dropped_trigger :
    let start := Vigil.start 1 0 10 2
    let history : List Act := [.send "a" true, .send "b" true, .send "c" false, .call,
      .step 3 (.signal "a"), .step 3 (.discarded "b"), .send "d" true, .step 3 (.discarded "d"),
      .step 3 (.finished (.signal "a")), .send "e" true, .dropTrigger, .call]
    ∃ w, start.run? history = some w ∧ drops history = copies history + 1 ∧
      (∀ finding v, w.after? (.step 4 finding) = some v → finding = .signal "e") ∧
        ∃ findings v, w.run? (alone 4 (findings ++ [.finished (.signal "e")])) = some v := by
  intro start history
  obtain ⟨w, hw⟩ := Option.isSome_iff_exists.1 (by decide : (start.run? history).isSome)
  have hstage : w.stage = some .receive := by
    have hmap : (start.run? history).map Vigil.stage = some (some .receive) := by decide
    rw [hw] at hmap
    exact Option.some.inj hmap
  have hfinds := (signals_bounded_and_coalesced hw).2.2.2.1 hstage "e" [] (by decide) 4
  exact ⟨w, hw, by decide, hfinds⟩

/-- A signal that comes when a wait has looked for one, and before it takes its tick, is lost: it is
discarded with the tick, and the next wakeup is a tick again.  While a wait empties a queue, more
signals are accepted than there is room for.  And not every capacity makes a queue. -/
theorem signal_lost_to_tick :
    let start := Vigil.start 1 0 10 1
    (¬ ∀ history w t reason v, start.run? history = some w →
      w.after? (.step t (.finished reason)) = some v →
      reason.key? = (acceptedSince history).head?) ∧
    (¬ ∀ past key between w, start.run? (past ++ .send key true :: between) = some w →
      2 ≤ between.countP (·.isWakeup) →
      ∃ t found, Act.step t (.finished (.signal found)) ∈ between) ∧
    (¬ ∀ history key w v, start.run? history = some w → w.after? (.send key true) = some v →
      (acceptedSince history).length < 1) ∧
    ¬ ∀ capacity, scheduleFault? (.ofNanos 0) (.ofNanos 10) capacity = none := by
  intro start
  -- a wait that has looked for a signal just before one comes, and takes its tick behind it
  let lost : List Act := [.step 10 .tick, .step 10 (.discarded "a"), .step 10 (.finished .tick)]
  refine ⟨fun h => ?_, fun h => ?_, fun h => ?_,
    fun h => absurd (h 2305843009213693952) (by decide)⟩
  · let history : List Act := .call :: .step 10 .noSignal :: .send "a" true :: lost.take 2
    obtain ⟨u, hu⟩ := Option.isSome_iff_exists.1
      (by decide : (start.run? (history ++ [.step 10 (.finished .tick)])).isSome)
    obtain ⟨w, v, hw, hv, -⟩ := run?_append_cons_eq_some_iff.1 hu
    exact absurd (h history w 10 .tick v hw hv) (by decide)
  · let between : List Act :=
      lost ++ [.call, .step 20 .noSignal, .step 20 .tick, .step 20 (.finished .tick)]
    let past : List Act := [.call, .step 10 .noSignal]
    obtain ⟨w, hw⟩ := Option.isSome_iff_exists.1
      (by decide : (start.run? (past ++ .send "a" true :: between)).isSome)
    obtain ⟨t, found, hmem⟩ := h past "a" between w hw (by decide)
    simp [between, lost] at hmem
  · let history : List Act := [.send "a" true, .call, .step 0 (.signal "a")]
    obtain ⟨u, hu⟩ := Option.isSome_iff_exists.1
      (by decide : (start.run? (history ++ [.send "b" true])).isSome)
    obtain ⟨w, v, hw, hv, -⟩ := run?_append_cons_eq_some_iff.1 hu
    exact absurd (h history "b" w v hw hv) (by decide)

end Vigil

end SidecarAgent.Refresh
