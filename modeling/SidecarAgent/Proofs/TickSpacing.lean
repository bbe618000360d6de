import SidecarAgent.Proofs.ScheduledWaits

/-!
# Ticks are spaced

Only ticks move the deadline of the next tick, so it can be told from the times at which ticks were
taken (`Watch.interval_of_run?`).  A wait ends at once if it finds a signal, and otherwise with the
first signal that comes, or at the deadline (`Watch.time_eq_of_wake`).  Each tick leaves the next
deadline a whole period behind itself, less the tolerance if it was late by no more than that, and
every tick in between moves it on by a period (`Watch.deadline_of_run?`).  So a tick that is far too
late is not made up for, and where no wait is called late, ticks are on schedule
(`Watch.onSchedule_of_run?`).
-/

namespace SidecarAgent.Refresh

/-! ## Times in histories -/

/-- The times of the ticks in a history. -/
def tickTimes (history : List Moment) : List Nat :=
  history.filterMap fun m => if m.what = .wake .tick then some m.time else none

/-- The deadline of the next tick after ticks at these times: one that was more than five
milliseconds late is followed by a period from then on, and any other by a period from its own
deadline on. -/
def deadlineAfter (unit start period : Nat) (ticks : List Nat) : Nat :=
  ticks.foldl (fun due t => if due + 5 * unit < t then t + period else due + period)
    (start + period)

/-- The deadline of the next tick behind a history. -/
def due (unit start period : Nat) (history : List Moment) : Nat :=
  deadlineAfter unit start period (tickTimes history)

/-- When a wait ends that was called at some time, by what was queued then, the deadline, and what
happens meanwhile: at once if something was queued, and otherwise with the first signal or else with
the tick. -/
def waitEnd (queued : List String) (called deadline : Nat) (meanwhile : List Moment) : Nat :=
  match queued with
  | _ :: _ => called
  | [] =>
    match meanwhile.find? (·.what.isSend) with
    | some m => min m.time (max called deadline)
    | none => max called deadline

variable {unit start period capacity t : Nat} {past between later history : List Moment}
  {m : Moment}

/-- A tick is the last of the ticks until then. -/
theorem tickTimes_concat_of_tick (h : m.what = .wake .tick) :
    tickTimes (past ++ [m]) = tickTimes past ++ [m.time] := by
  unfold tickTimes
  rw [List.filterMap_append]
  simp [h]

/-- What is no tick adds none. -/
theorem tickTimes_concat_of_ne_tick (h : m.what ≠ .wake .tick) :
    tickTimes (past ++ [m]) = tickTimes past := by
  unfold tickTimes
  rw [List.filterMap_append]
  simp [h]

/-- A tick moves the deadline. -/
theorem due_concat_of_tick (h : m.what = .wake .tick) :
    due unit start period (past ++ [m]) =
      if due unit start period past + 5 * unit < m.time then m.time + period
      else due unit start period past + period := by
  unfold due deadlineAfter
  rw [tickTimes_concat_of_tick h, List.foldl_append]
  rfl

/-- Nothing but a tick moves the deadline. -/
theorem due_concat_of_ne_tick (h : m.what ≠ .wake .tick) :
    due unit start period (past ++ [m]) = due unit start period past := by
  unfold due
  rw [tickTimes_concat_of_ne_tick h]

section WaitEnd

variable {queued : List String} {called deadline : Nat}

/-- A wait that finds a signal ends where it was called. -/
theorem waitEnd_of_queued (h : queued ≠ []) : waitEnd queued called deadline later = called := by
  obtain ⟨key, rest, rfl⟩ := List.exists_cons_of_ne_nil h
  rfl

/-- A wait that finds no signal ends with the first, if that is in time. -/
theorem waitEnd_cons_of_isSend (h : m.what.isSend = true) (hintime : m.time ≤ max called deadline) :
    waitEnd [] called deadline (m :: later) = m.time := by
  have hfirst : (m :: later).find? (·.what.isSend) = some m := List.find?_cons_of_pos h
  unfold waitEnd
  dsimp only
  rw [hfirst]
  exact Nat.min_eq_left hintime

/-- What is no signal puts off no end: the wait could as well have been called then. -/
theorem waitEnd_cons_of_not_isSend (h : m.what.isSend = false) (hcalled : called ≤ m.time)
    (hintime : m.time ≤ max called deadline) :
    waitEnd [] called deadline (m :: later) = waitEnd [] m.time deadline later := by
  have hmax : max called deadline = max m.time deadline := by omega
  have hfirst : (m :: later).find? (·.what.isSend) = later.find? (·.what.isSend) :=
    List.find?_cons_of_neg (by simp [h])
  unfold waitEnd
  dsimp only
  rw [hfirst, hmax]

end WaitEnd

/-! ## The deadline -/

namespace Interval

/-- A tick moves the deadline on by a period, or farther. -/
theorem deadline_add_period_le_tick (i : Interval) (now : Nat) :
    i.deadline + i.period ≤ (i.tick now).deadline := by
  unfold tick
  dsimp only
  split <;> omega

/-- A tick leaves the next deadline a period behind itself, less the tolerance. -/
theorem add_period_le_tick (i : Interval) (now : Nat) :
    now + i.period ≤ (i.tick now).deadline + i.tolerance := by
  unfold tick
  dsimp only
  split <;> omega

/-- A tick that is too late leaves the next deadline a whole period behind itself. -/
theorem deadline_tick_of_late {i : Interval} {now : Nat} (h : i.deadline + i.tolerance < now) :
    (i.tick now).deadline = now + i.period :=
  if_pos h

/-- A tick at its deadline leaves the next a period behind it. -/
theorem deadline_tick_of_punctual (i : Interval) :
    (i.tick i.deadline).deadline = i.deadline + i.period :=
  if_neg (Nat.not_lt.2 (Nat.le_add_right _ _))

end Interval

namespace Watch

variable {w v u x y z : Watch} {reason : Wakeup}

/-- Only a tick moves the interval on. -/
theorem Undergoes.interval_eq {o : Occurrence} (h : w.Undergoes o v) :
    v.interval = if o = .wake .tick then w.interval.tick w.now else w.interval := by
  cases h <;> rfl

/-- It is then the time at which something happened. -/
theorem now_of_after? (hafter : w.after? m = some v) : v.now = m.time := by
  obtain ⟨-, hundergoes⟩ := after?_eq_some_iff.1 hafter
  generalize m.what = o at hundergoes
  cases hundergoes <;> rfl

/-- A tick moves the interval on, at its time. -/
theorem interval_of_tick (hafter : w.after? m = some v) (htick : m.what = .wake .tick) :
    v.interval = w.interval.tick m.time :=
  (after?_eq_some_iff.1 hafter).2.interval_eq.trans (if_pos htick)

/-- What is no tick leaves the interval as it is. -/
theorem interval_of_ne_tick (hafter : w.after? m = some v) (htick : m.what ≠ .wake .tick) :
    v.interval = w.interval :=
  (after?_eq_some_iff.1 hafter).2.interval_eq.trans (if_neg htick)

/-- A tick is not before its deadline. -/
theorem deadline_le_of_tick (hafter : w.after? m = some v) (htick : m.what = .wake .tick) :
    w.interval.deadline ≤ m.time := by
  obtain ⟨-, hundergoes⟩ := after?_eq_some_iff.1 hafter
  rw [htick] at hundergoes
  cases hundergoes with
  | ticked _ _ hdue => exact hdue

/-- The deadline of a scheduler is the one behind its history. -/
theorem interval_of_run? (h : (Watch.start unit start period capacity).run? history = some w) :
    w.interval = ⟨period, due unit start period history, 5 * unit⟩ := by
  refine run?_induction
    (P := fun history w => w.interval = ⟨period, due unit start period history, 5 * unit⟩)
    rfl (fun past u m v ih hafter => ?_) h
  by_cases htick : m.what = .wake .tick
  · rw [interval_of_tick hafter htick, due_concat_of_tick htick, ih]
    rfl
  · rw [interval_of_ne_tick hafter htick, due_concat_of_ne_tick htick, ih]

/-- In a run, every tick moves the deadline on by a period, or farther. -/
theorem deadline_of_run? (h : w.run? later = some v) :
    w.interval.deadline + (tickTimes later).length * w.interval.period ≤ v.interval.deadline ∧
      v.interval.period = w.interval.period := by
  refine run?_induction (P := fun later v =>
    w.interval.deadline + (tickTimes later).length * w.interval.period ≤ v.interval.deadline ∧
      v.interval.period = w.interval.period) ⟨by simp [tickTimes], rfl⟩
        (fun past u m v ih hafter => ?_) h
  obtain ⟨hle, hperiod⟩ := ih
  by_cases htick : m.what = .wake .tick
  · have hmoved := u.interval.deadline_add_period_le_tick m.time
    rw [interval_of_tick hafter htick, tickTimes_concat_of_tick htick, List.length_append,
      List.length_singleton, Nat.succ_mul]
    exact ⟨by omega, hperiod⟩
  · rw [interval_of_ne_tick hafter htick, tickTimes_concat_of_ne_tick htick]
    exact ⟨hle, hperiod⟩

/-- Behind a deadline, ticks are at least a period apart. -/
theorem le_of_later_tick (h : w.run? between = some v) (hafter : v.after? m = some u)
    (htick : m.what = .wake .tick) :
    w.interval.deadline + (tickTimes between).length * w.interval.period ≤ m.time :=
  (deadline_of_run? h).1.trans (deadline_le_of_tick hafter htick)

/-! ## Ends of waits -/

/-- The end of a wait that goes on now. -/
def finish (w : Watch) (meanwhile : List Moment) : Nat :=
  waitEnd w.queue.signals w.now w.interval.deadline meanwhile

/-- With something queued, a wait ends now. -/
theorem finish_of_queued (h : w.queue.signals ≠ []) : w.finish between = w.now :=
  waitEnd_of_queued h

/-- With nothing queued, and no signal to come, a wait ends when the tick is due. -/
theorem finish_of_empty (h : w.queue.signals = []) :
    w.finish [] = max w.now w.interval.deadline := by
  unfold finish
  rw [h]
  rfl

/-- While a wait goes on, time passes until its end, if no signal comes. -/
theorem reaches_iff_of_waiting (hwaiting : w.waiting = true) :
    w.reaches t = true ↔ w.now ≤ t ∧ t ≤ w.finish [] := by
  cases hqueued : w.queue.signals with
  | nil =>
    rw [finish_of_empty hqueued]
    exact reaches_iff_of_empty hwaiting hqueued
  | cons key rest =>
    rw [finish_of_queued (by simp [hqueued]), reaches_iff_of_queued hwaiting hqueued]
    exact ⟨fun h => ⟨h.ge, h.le⟩, fun h => Nat.le_antisymm h.2 h.1⟩

/-- A wait can end when it has to, and nothing else happens later. -/
theorem exists_wake (hwaiting : w.waiting = true) :
    (∃ reason v, w.after? ⟨w.finish [], .wake reason⟩ = some v) ∧
      ∀ m v, w.after? m = some v → m.time ≤ w.finish [] := by
  refine ⟨?_, fun m v hafter =>
    ((reaches_iff_of_waiting hwaiting).1 (after?_eq_some_iff.1 hafter).1).2⟩
  cases hqueued : w.queue.signals with
  | nil =>
    have hnow := Nat.le_max_left w.now w.interval.deadline
    have hdue := Nat.le_max_right w.now w.interval.deadline
    rw [← finish_of_empty hqueued] at hnow hdue
    exact ⟨.tick, _, after?_eq_some_iff.2
      ⟨(reaches_iff_of_waiting hwaiting).2 ⟨hnow, le_rfl⟩, .ticked hwaiting hqueued hdue⟩⟩
  | cons key rest =>
    have hnow : w.finish [] = w.now := finish_of_queued (by simp [hqueued])
    rw [hnow]
    exact ⟨.signal key, _, after?_eq_some_iff.2
      ⟨(reaches_iff_of_queued hwaiting hqueued).2 rfl, .signalled hwaiting hqueued⟩⟩

/-- A scheduler is waited for that is there, with room for a signal. -/
structure Awaited (w : Watch) : Prop where
  waiting : w.waiting = true
  alive : w.queue.receiving = true
  room : 0 < w.queue.capacity

/-- A wait goes on until it ends, or the scheduler goes away. -/
theorem Awaited.after (h : w.Awaited) (hafter : w.after? m = some v)
    (hquiet : m.what.isWakeup = false)
    (hopen : m.what ≠ .close) : v.Awaited := by
  obtain ⟨-, hundergoes⟩ := after?_eq_some_iff.1 hafter
  exact ⟨hundergoes.waiting_iff.2 (.inr ⟨h.waiting, hquiet, hopen⟩),
    hundergoes.receiving_iff.2 ⟨h.alive, hopen⟩, hundergoes.capacity_eq.symm ▸ h.room⟩

/-- A signal to a scheduler that is waited for with nothing queued is queued. -/
theorem Awaited.signals_ne_nil (h : w.Awaited) (hafter : w.after? m = some v)
    (hsend : m.what.isSend = true) (hqueued : w.queue.signals = []) : v.queue.signals ≠ [] := by
  obtain ⟨-, hundergoes⟩ := after?_eq_some_iff.1 hafter
  generalize m.what = o at hundergoes hsend
  cases hundergoes with
  | accepted _ _ _ => exact List.append_ne_nil_of_right_ne_nil _ (List.cons_ne_nil _ _)
  | refused _ hfull =>
    have hlength : w.queue.capacity ≤ w.queue.signals.length := hfull h.alive
    rw [hqueued] at hlength
    exact absurd hlength (Nat.not_le.2 h.room)
  | _ => cases hsend

/-- What happens during a wait does not change when it ends, if it is taken into account from the
start. -/
theorem Awaited.finish_cons (h : w.Awaited) (hafter : w.after? m = some v)
    (hquiet : m.what.isWakeup = false) (hopen : m.what ≠ .close) :
    w.finish (m :: later) = v.finish later := by
  obtain ⟨hreaches, hundergoes⟩ := after?_eq_some_iff.1 hafter
  have hnow := now_of_after? hafter
  have hinterval : v.interval = w.interval := by
    refine interval_of_ne_tick hafter fun htick => ?_
    rw [htick] at hquiet
    cases hquiet
  have hsignals : v.queue.signals = w.queue.signals ++ m.what.accepted?.toList := by
    have hsignals := hundergoes.signals_eq (h.after hafter hquiet hopen).alive
    rwa [hquiet] at hsignals
  cases hqueued : w.queue.signals with
  | cons key rest =>
    -- no time has passed, so that both ends are now
    rw [finish_of_queued (by simp [hqueued]), finish_of_queued (by simp [hsignals, hqueued]), hnow]
    exact ((reaches_iff_of_queued h.waiting hqueued).1 hreaches).symm
  | nil =>
    obtain ⟨hcalled, hintime⟩ := (reaches_iff_of_empty h.waiting hqueued).1 hreaches
    cases hsend : m.what.isSend with
    | true =>
      rw [finish_of_queued (h.signals_ne_nil hafter hsend hqueued), hnow]
      unfold finish
      rw [hqueued, waitEnd_cons_of_isSend hsend hintime]
    | false =>
      have hnone : m.what.accepted? = none := by
        cases hwhat : m.what with
        | send key accepted => 
          rw [hwhat] at hsend
          cases hsend
        | _ => rfl
      -- time has passed, but not beyond the deadline, unless that was over before
      unfold finish
      rw [hsignals, hqueued, hnone, hnow, hinterval]
      exact waitEnd_cons_of_not_isSend hsend hcalled hintime

/-- If nothing comes before, a wait that goes on ends when it has to. -/
theorem Awaited.time_eq_of_wake_now (h : w.Awaited) (hwake : w.after? ⟨t, .wake reason⟩ = some v) :
    t = w.finish [] := by
  obtain ⟨hreaches, hundergoes⟩ := after?_eq_some_iff.1 hwake
  cases hqueued : w.queue.signals with
  | cons key rest =>
    rw [finish_of_queued (by simp [hqueued])]
    exact (reaches_iff_of_queued h.waiting hqueued).1 hreaches
  | nil =>
    obtain ⟨hnow, hle⟩ := (reaches_iff_of_empty h.waiting hqueued).1 hreaches
    rw [finish_of_empty hqueued]
    cases hundergoes with
    | signalled _ hsome => cases hqueued.symm.trans hsome
    | ticked _ _ hdue => exact Nat.le_antisymm hle (Nat.max_le.2 ⟨hnow, hdue⟩)

/-- A wait that goes on ends when it has to. -/
theorem Awaited.time_eq_of_wake (h : w.Awaited) (hrun : w.run? between = some v)
    (hwake : v.after? ⟨t, .wake reason⟩ = some u) (hquiet : ∀ m ∈ between, m.what.isWakeup = false)
    (hopen : ∀ m ∈ between, m.what ≠ .close) : t = w.finish between := by
  induction between generalizing w with
  | nil =>
    cases hrun
    exact h.time_eq_of_wake_now hwake
  | cons m rest ih =>
    obtain ⟨x, hx, hrest⟩ := run?_cons_eq_some_iff.1 hrun
    obtain ⟨hmquiet, hrestquiet⟩ := List.forall_mem_cons.1 hquiet
    obtain ⟨hmopen, hrestopen⟩ := List.forall_mem_cons.1 hopen
    rw [h.finish_cons hx hmquiet hmopen]
    exact ih (h.after hx hmquiet hmopen) hrest hrestquiet hrestopen

/-- A wait that is called ends when it has to, by what was accepted since the last wakeup. -/
theorem time_eq_of_wait {c : Nat}
    (hpast : (Watch.start unit start period capacity).run? past = some w)
    (hcall : w.after? ⟨c, .wait⟩ = some x) (hbetween : x.run? between = some y)
    (hwake : y.after? ⟨t, .wake reason⟩ = some z)
    (hquiet : ∀ m ∈ between, m.what.isWakeup = false) :
    t = waitEnd (acceptedSince past) c (due unit start period past) between := by
  have hcalled : (Watch.start unit start period capacity).run? (past ++ [⟨c, .wait⟩]) = some x :=
    run?_append_cons_eq_some_iff.2 ⟨w, x, hpast, hcall, rfl⟩
  have haccounted := accounted_of_run? hcalled
  have hwaiting : x.waiting = true := (after?_eq_some_iff.1 hcall).2.waiting_iff.2 (.inl rfl)
  have halive := haccounted.waiting hwaiting
  have hawaited : x.Awaited :=
    ⟨hwaiting, halive,
      haccounted.capacity.symm ▸ Nat.lt_of_lt_of_le Nat.one_pos (Nat.le_max_right _ _)⟩
  -- nobody would wait at the end of the wait if the scheduler had gone away before
  have hopen : ∀ m ∈ between, m.what ≠ .close := by
    have hend := accounted_of_run? (run?_append_eq_some_iff.2 ⟨x, hcalled, hbetween⟩)
    have hywaiting : y.waiting = true := by
      obtain ⟨-, hundergoes⟩ := after?_eq_some_iff.1 hwake
      cases hundergoes <;> assumption
    exact fun m hm => hend.alive.1 (hend.waiting hywaiting) m (List.mem_append_right _ hm)
  have hqueued : x.queue.signals = acceptedSince past := by
    rw [haccounted.queued halive, acceptedSince_concat_of_not_isWakeup rfl]
    exact List.append_nil _
  have hinterval := interval_of_run? hcalled
  rw [due_concat_of_ne_tick (by simp)] at hinterval
  rw [hawaited.time_eq_of_wake hbetween hwake hquiet hopen]
  unfold finish
  rw [hqueued, now_of_after? hcall, hinterval]

/-! ## On schedule -/

/-- The ticks are a period apart, the deadline is a period behind the last, and no wait goes on
beyond the deadline. -/
structure OnSchedule (start period : Nat) (ticks : List Nat) (w : Watch) : Prop where
  onTime : ∀ n t, ticks[n]? = some t → t = start + (n + 1) * period
  deadline : w.interval.deadline = start + (ticks.length + 1) * period
  waiting : w.waiting = true → w.now ≤ w.interval.deadline

/-- While a wait on schedule goes on, no time passes beyond the deadline. -/
theorem OnSchedule.le_deadline {ticks : List Nat} (h : OnSchedule start period ticks w)
    (hafter : w.after? m = some v) (hwaiting : w.waiting = true) :
    m.time ≤ w.interval.deadline := by
  have hle := ((reaches_iff_of_waiting hwaiting).1 (after?_eq_some_iff.1 hafter).1).2
  have hnow := h.waiting hwaiting
  cases hqueued : w.queue.signals with
  | nil => rwa [finish_of_empty hqueued, Nat.max_eq_right hnow] at hle
  | cons key rest =>
    rw [finish_of_queued (by simp [hqueued])] at hle
    exact hle.trans hnow

/-- A tick on schedule comes at its deadline, and leaves all on schedule. -/
theorem OnSchedule.after_tick {ticks : List Nat} (h : OnSchedule start period ticks w)
    (hperiod : w.interval.period = period) (hafter : w.after? ⟨t, .wake .tick⟩ = some v) :
    OnSchedule start period (ticks ++ [t]) v := by
  obtain ⟨-, hundergoes⟩ := after?_eq_some_iff.1 hafter
  cases hundergoes with
  | ticked hwaiting _ _ =>
    have htime : t = w.interval.deadline :=
      Nat.le_antisymm (h.le_deadline hafter hwaiting) (deadline_le_of_tick hafter rfl)
    have htick : t = start + (ticks.length + 1) * period := htime.trans h.deadline
    refine ⟨fun n time hn => ?_, ?_, fun hwaiting => absurd hwaiting Bool.false_ne_true⟩
    · rcases Nat.lt_or_ge n ticks.length with hlt | hge
      · rw [List.getElem?_append_left hlt] at hn
        exact h.onTime n time hn
      · -- the tick is the last of all, and its number is how many there were before
        obtain ⟨hlast, rfl⟩ : n - ticks.length = 0 ∧ t = time := by
          rw [List.getElem?_append_right hge, List.getElem?_singleton] at hn
          exact (Option.ite_none_right_eq_some.1 hn).imp_right Option.some.inj
        rw [htick, Nat.le_antisymm (Nat.sub_eq_zero_iff_le.1 hlast) hge]
    · change (w.interval.tick t).deadline = _
      rw [htime, Interval.deadline_tick_of_punctual, h.deadline, hperiod, List.length_append,
        List.length_singleton, Nat.succ_mul (ticks.length + 1), Nat.add_assoc]

/-- Where no wait is called beyond the deadline, ticks are on schedule. -/
theorem onSchedule_of_run? (h : (Watch.start unit start period capacity).run? history = some w)
    (hintime : ∀ past c later, history = past ++ ⟨c, .wait⟩ :: later →
      c ≤ due unit start period past) :
    OnSchedule start period (tickTimes history) w := by
  induction history using List.reverseRecOn generalizing w with
  | nil =>
    cases h
    refine ⟨fun n t hn => ?_, ?_, fun hwaiting => absurd hwaiting Bool.false_ne_true⟩
    · simp [tickTimes] at hn
    · simp [Watch.start, Scheduler.make, Interval.start, tickTimes]
  | append_singleton past m ih =>
    obtain ⟨u, v, hu, hafter, hw⟩ := run?_append_cons_eq_some_iff.1 h
    cases hw
    have hpast := ih hu fun earlier c later hsplit =>
      hintime earlier c (later ++ [m]) (by rw [hsplit, List.append_assoc, List.cons_append])
    by_cases htick : m.what = .wake .tick
    · obtain ⟨time, what⟩ := m
      cases htick
      rw [tickTimes_concat_of_tick rfl]
      exact hpast.after_tick (congrArg Interval.period (interval_of_run? hu)) hafter
    · have hinterval := interval_of_ne_tick hafter htick
      rw [tickTimes_concat_of_ne_tick htick]
      refine ⟨hpast.onTime, hinterval ▸ hpast.deadline, fun hwaiting => ?_⟩
      rw [hinterval, now_of_after? hafter]
      rcases (after?_eq_some_iff.1 hafter).2.waiting_iff.1 hwaiting with hwait | ⟨hbefore, -, -⟩
      · rw [interval_of_run? hu]
        exact hintime past m.time [] (by rw [← hwait])
      · exact hpast.le_deadline hafter hbefore

/-! ## Histories -/

/-- Between two ticks there is at least a period, and one more for each tick in between, less the
tolerance; and not less, if the first was too late. -/
theorem spacing (hpast : (Watch.start unit start period capacity).run? past = some w)
    (hfirst : w.after? ⟨t, .wake .tick⟩ = some x) (hbetween : x.run? between = some y) {t' : Nat}
    (hlast : y.after? ⟨t', .wake .tick⟩ = some z) :
    t + ((tickTimes between).length + 1) * period ≤ t' + 5 * unit ∧
      (due unit start period past + 5 * unit < t →
        t + ((tickTimes between).length + 1) * period ≤ t') := by
  -- what the first tick leaves of the deadline, and where the last finds it
  have hinterval := interval_of_run? hpast
  have hx : x.interval = w.interval.tick t := interval_of_tick hfirst rfl
  have hlater : _ ≤ t' := le_of_later_tick hbetween hlast rfl
  have hperiod : (w.interval.tick t).period = period := by rw [hinterval]; rfl
  rw [hx, hperiod] at hlater
  rw [Nat.succ_mul]
  constructor
  · have hnext := w.interval.add_period_le_tick t
    rw [hinterval] at hnext hlater
    change t + period ≤ _ + 5 * unit at hnext
    omega
  · intro hlate
    have hnext : (w.interval.tick t).deadline = t + period := by
      rw [Interval.deadline_tick_of_late (by rw [hinterval]; exact hlate), hinterval]
    omega

/-- However a scheduler is used, nothing but ticks moves the deadline of the next tick, and a wait
ends when it has to: at once if it finds a signal, and otherwise with the first signal, or else at
the deadline or, if that is over, at once.

Between two ticks there is at least a period, and one more for every tick in between, less five
milliseconds.  If the first is more than five milliseconds late, nothing is taken off.  So with a
longer period, one tick answers all the periods for which nobody waited.

Where no wait is called beyond the deadline, every tick comes as many periods after the start as it
has a number. -/
theorem ticks_spaced (h : (Watch.start unit start period capacity).run? history = some w) :
    w.interval.deadline = due unit start period history ∧
    (w.waiting = true →
      let finish := waitEnd (acceptedSince history) w.now (due unit start period history) []
      (∃ reason v, w.after? ⟨finish, .wake reason⟩ = some v) ∧
        ∀ m v, w.after? m = some v → m.time ≤ finish) ∧
    (∀ past c between t reason later,
      history = past ++ ⟨c, .wait⟩ :: (between ++ ⟨t, .wake reason⟩ :: later) →
      (∀ m ∈ between, m.what.isWakeup = false) →
      t = waitEnd (acceptedSince past) c (due unit start period past) between) ∧
    (∀ past t between t' later,
      history = past ++ ⟨t, .wake .tick⟩ :: (between ++ ⟨t', .wake .tick⟩ :: later) →
      t + ((tickTimes between).length + 1) * period ≤ t' + 5 * unit ∧
        (due unit start period past + 5 * unit < t →
          t + ((tickTimes between).length + 1) * period ≤ t') ∧
        (5 * unit < period → due unit start period past + period ≤ t → t + period ≤ t')) ∧
    ((∀ past c later, history = past ++ ⟨c, .wait⟩ :: later → c ≤ due unit start period past) →
      ∀ n t, (tickTimes history)[n]? = some t → t = start + (n + 1) * period) := by
  refine ⟨congrArg Interval.deadline (interval_of_run? h), fun hwaiting => ?_, ?_, ?_,
    fun hintime => (onSchedule_of_run? h hintime).onTime⟩
  · have haccounted := accounted_of_run? h
    have hfinish := exists_wake hwaiting
    unfold finish at hfinish
    rw [haccounted.queued (haccounted.waiting hwaiting), interval_of_run? h] at hfinish
    exact hfinish
  · rintro past c between t reason later rfl hquiet
    obtain ⟨u, x, hpast, hcall, hrest⟩ := run?_append_cons_eq_some_iff.1 h
    obtain ⟨y, z, hbetween, hwake, -⟩ := run?_append_cons_eq_some_iff.1 hrest
    exact time_eq_of_wait hpast hcall hbetween hwake hquiet
  · rintro past t between t' later rfl
    obtain ⟨u, x, hpast, hfirst, hrest⟩ := run?_append_cons_eq_some_iff.1 h
    obtain ⟨y, z, hbetween, hlast, -⟩ := run?_append_cons_eq_some_iff.1 hrest
    obtain ⟨hspaced, hlate⟩ := spacing hpast hfirst hbetween hlast
    refine ⟨hspaced, hlate, fun hlong hstalled => ?_⟩
    -- a whole period is more than the tolerance, so whoever missed one is too late
    have hwhole := hlate (Nat.lt_of_lt_of_le (Nat.add_lt_add_left hlong _) hstalled)
    exact (Nat.add_le_add_left (Nat.le_mul_of_pos_left _ (Nat.succ_pos _)) _).trans hwhole

/-- A wait that is called three periods late finds a tick, the next ends a period later, and so does
the one after that. -/
theorem stall_answered_by_one_tick :
    let start := Watch.start 1 0 10 4
    let history : List Moment :=
      [⟨2, .send "a" true⟩, ⟨4, .wait⟩, ⟨4, .wake (.signal "a")⟩, ⟨40, .wait⟩,
      ⟨40, .wake .tick⟩, ⟨41, .wait⟩, ⟨50, .wake .tick⟩, ⟨53, .wait⟩]
    ∃ w, start.run? history = some w ∧ 40 + 10 ≤ 50 ∧
      (∃ reason v, w.after? ⟨60, .wake reason⟩ = some v) ∧
      ∀ m v, w.after? m = some v → m.time ≤ 60 := by
  intro start history
  obtain ⟨w, hw⟩ := Option.isSome_iff_exists.1 (by decide : (start.run? history).isSome)
  have hwaiting : w.waiting = true ∧ w.now = 53 := by
    have hmap :
        (start.run? history).map (fun w => (w.waiting, w.now)) = some (true, 53) := by decide
    rw [hw] at hmap
    exact Prod.ext_iff.1 (Option.some.inj hmap)
  obtain ⟨-, hend, -, hspaced, -⟩ := ticks_spaced hw
  have hend := hend hwaiting.1
  rw [hwaiting.2] at hend
  have hlong :=
    (hspaced (history.take 4) 40 [⟨41, .wait⟩] 50 [⟨53, .wait⟩] rfl).2.2 (by decide) (by decide)
  exact ⟨w, hw, hlong, hend⟩

/-- With a period of two milliseconds, though, a tick that is five milliseconds late is made up for:
two more are taken at the same time. -/
theorem burst_after_stall :
    ¬ ∀ history w, (Watch.start 1 0 2 1).run? history = some w → ∀ past t between t' later,
      history = past ++ ⟨t, .wake .tick⟩ :: (between ++ ⟨t', .wake .tick⟩ :: later) →
      due 1 0 2 past + 2 ≤ t → t < t' := by
  intro h
  let history : List Moment := [⟨7, .wait⟩, ⟨7, .wake .tick⟩, ⟨7, .wait⟩, ⟨7, .wake .tick⟩]
  obtain ⟨w, hw⟩ := Option.isSome_iff_exists.1
    (by decide : ((Watch.start 1 0 2 1).run? history).isSome)
  exact absurd (h history w hw [⟨7, .wait⟩] 7 [⟨7, .wait⟩] 7 [] rfl (by decide)) (Nat.lt_irrefl 7)

end Watch

end SidecarAgent.Refresh
