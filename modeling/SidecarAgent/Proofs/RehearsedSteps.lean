import SidecarAgent.Proofs.PullingProcesses
import SidecarAgent.Simulation.Step

/-!
# Steps of a rehearsal that pull

Whatever a step of a rehearsal does, the cursors move by the outcomes of its requests alone and what
reaches the control plane are its requests (`Act.pulls_step`).  Changes to sources, schedulers,
managers and caches are quiet.
-/

namespace SidecarAgent.Simulation

open Config (Event Manager Snapshot SourceError)
open Discovery
open Telemetry (Note)

/-! ## Quiet changes -/

namespace World

/-- Changing a source is quiet. -/
theorem quiet_modifySource (w : World) (number : ℕ) (f : Source → Source) :
    Quiet w (w.modifySource number f) := ⟨rfl, rfl, List.Subset.refl _⟩

/-- Changing a lock is quiet. -/
theorem quiet_modifyLock (w : World) (number : ℕ) (f : Lock → Lock) :
    Quiet w (w.modifyLock number f) := w.quiet_modifySource number _

/-- Changing what a polled source has built is quiet. -/
theorem quiet_modifyPolled (w : World) (number : ℕ)
    (f : Config.PolledSource → Config.PolledSource) :
    Quiet w (w.modifyPolled number f) := w.quiet_modifySource number _

/-- Changing a scheduler is quiet. -/
theorem quiet_modifyPacer (w : World) (number : ℕ) (f : Pacer → Pacer) :
    Quiet w (w.modifyPacer number f) := ⟨rfl, rfl, List.Subset.refl _⟩

/-- Sending a signal is quiet. -/
theorem quiet_send (w : World) (pacer : ℕ) (key : String) : Quiet w (w.send pacer key).1 := by
  unfold send
  split
  · exact .refl w
  · exact w.quiet_modifyPacer pacer _

/-- Handing an event to a listener is quiet. -/
theorem quiet_deliver (w : World) (listener : Listener) (e : Event) :
    Quiet w (w.deliver listener e) := by
  cases listener with
  | recorder name => exact ⟨rfl, rfl, List.Subset.refl _⟩
  | egressCache name => exact ⟨rfl, rfl, List.Subset.refl _⟩
  | endpointCache name => exact ⟨rfl, rfl, List.Subset.refl _⟩

/-- Handing events to listeners is quiet. -/
theorem quiet_deliveries (w : World) (deliveries : List (Listener × Event)) :
    Quiet w (deliveries.foldl (fun w d => w.deliver d.1 d.2) w) := by
  induction deliveries generalizing w with
  | nil => exact .refl w
  | cons d rest ih => exact (w.quiet_deliver d.1 d.2).trans (ih (w.deliver d.1 d.2))

/-- Carrying out what an operation on a manager does is quiet. -/
theorem quiet_carryOut (w : World) (name : String) (effect : Manager.Effect ℕ Listener) :
    Quiet w (w.carryOut name effect) := by
  have hbefore : Quiet w ({ w with managers := w.managers.insert name effect.manager }.enter
    effect.notes) := ⟨rfl, rfl, List.Subset.refl _⟩
  exact hbefore.trans (quiet_deliveries _ effect.deliveries)

/-- Entering an event into a manager is quiet. -/
theorem quiet_apply (w : World) (name : String) (e : Event) : Quiet w (w.apply name e) :=
  w.quiet_carryOut name _

/-- Adding a source is quiet. -/
theorem quiet_addSource (w : World) (name : String) (s : Source) : Quiet w (w.addSource name s) :=
  ⟨rfl, rfl, List.Subset.refl _⟩

/-- Adding a polled source is quiet. -/
theorem quiet_addPolled (w : World) (id name : String) (priority : Int) (pull : Pull)
    (now period capacity : ℕ) :
    Quiet w (w.addPolled id name priority pull now period capacity) :=
  ⟨rfl, rfl, List.Subset.refl _⟩

/-- Making a source is quiet. -/
theorem quiet_makeSource {w v : World} {now : ℕ} {id : String} {spec : SourceSpec}
    (h : w.makeSource now id spec = .ok v) : Quiet w v := by
  cases spec with
  | fixed name priority entries failing =>
    cases h
    exact w.quiet_addSource id _
  | ruleText text =>
    cases hparse : Egress.RuleFile.parse "egress.yaml" text with
    | ok file =>
      unfold makeSource at h
      dsimp only at h
      rw [hparse] at h
      cases h
      exact w.quiet_addSource id _
    | error e =>
      unfold makeSource at h
      dsimp only at h
      rw [hparse] at h
      cases h
  | backend name file period capacity =>
    cases hselect : Egress.select name (some ()) file with
    | ok source =>
      unfold makeSource at h
      dsimp only at h
      rw [hselect] at h
      cases source with
      | ruleFile file =>
        cases h
        exact w.quiet_addSource id _
      | controlPlane client =>
        cases h
        exact w.quiet_addPolled id _ _ _ _ _ _
    | error e =>
      unfold makeSource at h
      dsimp only at h
      rw [hselect] at h
      cases h
  | polled name priority pull period capacity =>
    cases h
    exact w.quiet_addPolled id name priority pull now period capacity

/-- Taking the loop of a source is quiet. -/
theorem quiet_takeLoop (w : World) (number : ℕ) : Quiet w (w.takeLoop number).1 := by
  unfold takeLoop
  split
  · exact w.quiet_modifySource number _
  · exact .refl w

end World

/-- Changing what surrounds the agent is quiet. -/
theorem Setting.quiet_apply (s : Setting) (w : World) : Quiet w (s.apply w) := by
  cases s with
  | entries id snapshot =>
    unfold Setting.apply
    dsimp only
    split
    · exact w.quiet_modifySource _ _
    · exact .refl w
  | failingSource id on =>
    unfold Setting.apply
    dsimp only
    split
    · exact w.quiet_modifySource _ _
    · exact .refl w
  | _ => exact ⟨rfl, rfl, List.Subset.refl _⟩

namespace Act

/-! ## Sources -/

/-- Waiting for a lock asks for nothing. -/
theorem pulls_acquire (number : ℕ) : Pulls (acquire number) := by
  refine .look fun w => ?_
  simp only [Process.bind]
  split
  · exact .done rfl
  · exact .change (fun v => v.quiet_modifyLock number _) (.await (.done rfl))

/-- Handing a lock on asks for nothing. -/
theorem pulls_release (number : ℕ) : Pulls (release number) :=
  .change (fun w => w.quiet_modifyLock number _) (.done rfl)

/-- Pulling a snapshot pulls. -/
theorem pulls_pullFor (source : Config.PolledSource) (pull : Pull) : Pulls (pullFor source pull) :=
  Pulls.bind (asks_enter none _) fun _ => Pulls.bind (pulls_carryOut _) fun _ =>
    Pulls.bind (asks_enter none _) fun _ => .done rfl

/-- Pulling the whole snapshot of a source pulls. -/
theorem pulls_configurations (number : ℕ) : Pulls (configurations number) := by
  refine .look fun w => ?_
  simp only [Process.bind]
  split
  · exact .done rfl
  · exact .done rfl
  · exact .done rfl
  · refine Pulls.bind (pulls_acquire number) fun _ => .look fun v => ?_
    simp only [Process.bind]
    split
    · refine Pulls.bind (pulls_pullFor _ _) fun _ =>
        .change (fun u => u.quiet_modifyPolled number _) ?_
      exact Pulls.bind (pulls_release number) fun _ => .done rfl
    · exact .done rfl

/-- Handing events on one after another asks for nothing. -/
theorem pulls_forM (events : List Event) {callback : Event → World → World}
    (hcallback : ∀ e w, Quiet w (callback e w)) :
    Pulls (events.forM fun e => Process.modify (callback e)) := by
  induction events with
  | nil => exact .done rfl
  | cons e rest ih => exact .change (hcallback e) ih

/-- Refreshing a source pulls, if handing its events on asks for nothing. -/
theorem pulls_refreshWith (number : ℕ) {callback : Event → World → World}
    (hcallback : ∀ e w, Quiet w (callback e w)) : Pulls (refreshWith number callback) := by
  refine Pulls.bind (pulls_acquire number) fun _ => .look fun w => ?_
  simp only [Process.bind]
  split
  · refine Pulls.bind (pulls_pullFor _ _) fun pulled =>
      .change (fun v => v.quiet_modifyPolled number _) ?_
    simp only [Process.bind]
    split
    · exact Pulls.bind (asks_enter none _) fun _ => Pulls.bind (pulls_forM _ hcallback) fun _ =>
        .bind (pulls_release number) fun _ => .done rfl
    · exact Pulls.bind (pulls_release number) fun _ => .done rfl
  · exact .done rfl

/-- Refreshing a source pulls. -/
theorem pulls_refreshed (number : ℕ) : Pulls (refreshed number) :=
  pulls_refreshWith number fun _ w => .refl w

/-- Asking a source for its changes pulls. -/
theorem pulls_syncChanges (number : ℕ) : Pulls (syncChanges number) := by
  refine .look fun w => ?_
  simp only [Process.bind]
  split
  · exact Pulls.bind (pulls_refreshed number) fun _ => .done rfl
  · exact .done rfl

/-! ## Managers -/

/-- Asking a source on behalf of a manager pulls. -/
theorem pulls_ask (number : ℕ) : Pulls (ask number) := by
  refine Pulls.bind (pulls_syncChanges number) fun changes => ?_
  split
  · exact .done rfl
  · exact .done rfl
  · refine Pulls.bind (pulls_configurations number) fun pulled => ?_
    split
    · exact .done rfl
    · exact .done rfl

/-- Adding a source to a manager pulls. -/
theorem pulls_addSource (manager : String) (number : ℕ) : Pulls (addSource manager number) := by
  refine .look fun w => ?_
  simp only [Process.bind]
  split
  · exact .done rfl
  · exact Pulls.bind (pulls_configurations number) fun _ =>
      .change (fun v => v.quiet_carryOut manager _) (.done rfl)

/-- Asking the sources of a manager one after another pulls. -/
theorem pulls_refreshSources (manager : String) (sources : List (String × ℕ))
    (pulled : List (String × Snapshot)) : Pulls (refreshSources manager sources pulled) := by
  induction sources generalizing pulled with
  | nil => exact .change (fun w => w.quiet_carryOut manager _) (.done rfl)
  | cons source rest ih =>
    exact Pulls.bind (pulls_ask source.2) fun _ =>
      .change (fun w => w.quiet_carryOut manager _) (ih _)

/-- Refreshing a manager pulls. -/
theorem pulls_refresh (manager : String) : Pulls (refresh manager) :=
  .look fun _ => pulls_refreshSources manager _ []

/-! ## Schedulers and loops -/

/-- Setting the timer of a scheduler asks for nothing. -/
theorem pulls_armPacer (pacer : ℕ) : Pulls (armPacer pacer) := by
  refine .look fun w => ?_
  simp only [Process.bind]
  split
  · exact .timer fun t => .change (fun v => v.quiet_modifyPacer pacer _) (.done rfl)
  · exact .done rfl

/-- Waiting for a scheduler asks for nothing. -/
theorem pulls_wakeup (pacer : ℕ) : Pulls (wakeup pacer) := by
  refine .look fun w => .clock fun now => ?_
  simp only [Process.bind]
  -- Whether or not the timer is set first, the rest is the same.
  refine Pulls.beforehand (pulls_armPacer pacer) ?_
  refine .look fun v => .await (.look fun u => .clock fun later => ?_)
  simp only [Process.bind]
  split
  · exact .done rfl
  · exact .change (fun x => x.quiet_modifyPacer pacer _) (.done rfl)

/-- A round of a loop pulls. -/
theorem pulls_loopRound (manager : String) (number : ℕ) : Pulls (loopRound manager number) := by
  refine .look fun w => ?_
  simp only [Process.bind]
  split
  · refine Pulls.bind (pulls_wakeup _) fun _ =>
      Pulls.bind (pulls_refreshWith number fun e w => w.quiet_apply manager e) fun result => ?_
    split
    · exact .done rfl
    · exact asks_enter none _
  · exact .await (.done rfl)

/-- A signal sent after some time asks for nothing. -/
theorem pulls_sendLater (millis pacer : ℕ) (key : String) : Pulls (sendLater millis pacer key) :=
  .clock fun _ => .timer fun _ => .await (.change (fun w => w.quiet_send pacer key) (.done rfl))

/-! ## Steps -/

/-- Asking the client pulls. -/
theorem pulls_answer {α : Type} (reply : α → Reply) (d : Dialogue (Except DiscoveryError α)) :
    Pulls (answer reply d) := Pulls.bind (pulls_carryOut d) fun _ => .done rfl

/-- A question to the client pulls. -/
theorem pulls_question (q : Question) : Pulls (question q) := by
  cases q <;> exact pulls_answer _ _

/-- Looking at the world asks for nothing. -/
theorem pulls_view (f : World → Reply) : Pulls (view f) := .look fun _ => .done rfl

/-- A quiet change asks for nothing. -/
theorem pulls_change {f : World → World} (hf : ∀ w, Quiet w (f w)) : Pulls (change f) :=
  .change hf (.done rfl)

/-- A quiet change with a reply asks for nothing. -/
theorem pulls_update {f : World → World × Reply} (hf : ∀ w, Quiet w (f w).1) : Pulls (update f) :=
  .adjust (fun w _ => (f w).1) (fun w => .done (f w).2) (fun _ => rfl) hf fun _ => .done rfl

/-- Doing something with a source pulls if what is done does. -/
theorem pulls_withSource {α : Type} (id : String) (reply : Except SourceError α → Reply)
    {act : ℕ → Act (Except SourceError α)} (hact : ∀ n, Pulls (act n)) :
    Pulls (withSource id reply act) := by
  refine .look fun w => ?_
  simp only [Process.bind]
  split
  · exact Pulls.bind (hact _) fun _ => .done rfl
  · exact .done rfl

/-- Changing a scheduler asks for nothing. -/
theorem pulls_changeScheduler (id : String) (f : Refresh.Scheduler → Refresh.Scheduler) :
    Pulls (changeScheduler id f) := by
  refine pulls_change fun w => ?_
  split
  · exact w.quiet_modifyPacer _ _
  · exact .refl w

/-- Sending a signal if there is somewhere to send it is quiet. -/
theorem quiet_trigger (w : World) (pacer : Option ℕ) (key : Option String) :
    Quiet w (trigger w pacer key) := by
  unfold trigger
  split
  · exact w.quiet_send _ _
  · exact .refl w

/-- Every step pulls. -/
theorem pulls_step (s : Step) : Pulls (step s) := by
  unfold step
  cases s with
  | set setting => exact pulls_change setting.quiet_apply
  | requests =>
    -- To take the requests away leaves fewer of them.
    refine pulls_update fun w => ?_
    exact ⟨rfl, rfl, List.nil_subset _⟩
  | clusterCalls =>
    refine pulls_update fun w => ?_
    exact ⟨rfl, rfl, List.Subset.refl _⟩
  | advance millis => exact .clock fun _ => .timer fun _ => .await (.pause (.done rfl))
  | now => exact .clock fun _ => .done rfl
  | metrics => exact pulls_view _
  | logs =>
    refine pulls_update fun w => ?_
    exact ⟨rfl, rfl, List.Subset.refl _⟩
  | ask q => exact pulls_question q
  | cursors => exact pulls_view _
  | concurrent cluster => exact .done rfl
  | newSource id spec =>
    refine .clock fun now => pulls_update fun w => ?_
    split
    · exact .refl w
    · split
      · exact World.quiet_makeSource ‹_›
      · exact World.quiet_makeSource ‹_›
  | pullSource id => exact pulls_withSource id _ pulls_configurations
  | lookKeyUp id key => exact pulls_view _
  | syncSource id =>
    refine pulls_withSource id _ fun n => Pulls.bind (pulls_syncChanges n) fun changes => ?_
    split
    · exact .done rfl
    · exact .done rfl
    · exact .done rfl
  | refreshSource id => exact pulls_withSource id _ pulls_refreshed
  | triggerSource id key =>
    refine pulls_update fun w => ?_
    split
    · exact .refl w
    · exact w.quiet_send _ key
  | listen manager pattern listener => exact pulls_change fun w => ⟨rfl, rfl, List.Subset.refl _⟩
  | events name =>
    refine pulls_update fun w => ?_
    exact ⟨rfl, rfl, List.Subset.refl _⟩
  | addSource manager id =>
    refine .look fun w => ?_
    simp only [Process.bind]
    split
    · exact Pulls.bind (pulls_addSource manager _) fun _ => .done rfl
    · exact .done rfl
  | apply manager e => exact pulls_change fun w => w.quiet_apply manager e
  | refresh manager => exact Pulls.bind (pulls_refresh manager) fun _ => .done rfl
  | run manager => exact pulls_view _
  | get manager key => exact pulls_view _
  | configurations manager => exact pulls_view _
  | notify listener e => exact pulls_change fun w => w.quiet_deliver listener e
  | publishRules cache key rules =>
    refine pulls_update fun w => ?_
    split
    · exact .refl w
    · exact ⟨rfl, rfl, List.Subset.refl _⟩
  | withdrawRules cache key =>
    refine pulls_update fun w => ?_
    exact ⟨rfl, rfl, List.Subset.refl _⟩
  | rulesOf cache key => exact pulls_view _
  | rulesSize cache => exact pulls_view _
  | allRules cache => exact pulls_view _
  | matchHost cache host => exact pulls_view _
  | setSubset cache key subset => exact pulls_change fun w => ⟨rfl, rfl, List.Subset.refl _⟩
  | deleteSubset cache key =>
    refine pulls_update fun w => ?_
    exact ⟨rfl, rfl, List.Subset.refl _⟩
  | subsetOf cache key => exact pulls_view _
  | subsetsSize cache => exact pulls_view _
  | instances cache service tags => exact pulls_view _
  | plane name caches egress endpoint => exact pulls_change fun w => ⟨rfl, rfl, List.Subset.refl _⟩
  | planeMatch name host =>
    refine pulls_update fun w => ?_
    exact quiet_trigger w _ _
  | planeInstances name service tags =>
    refine pulls_update fun w => ?_
    exact quiet_trigger w _ _
  | newScheduler id period capacity =>
    exact .clock fun _ => pulls_change fun w => ⟨rfl, rfl, List.Subset.refl _⟩
  | send id key =>
    refine pulls_update fun w => ?_
    split
    · exact .refl w
    · exact w.quiet_send _ key
  | sendLater id millis key => exact .done rfl
  | wait id =>
    refine .look fun w => ?_
    simp only [Process.bind]
    split
    · exact .done rfl
    · exact Pulls.bind (pulls_wakeup _) fun _ => .clock fun _ => .done rfl
  | dropScheduler id =>
    exact pulls_changeScheduler id _
  | dropTrigger id =>
    exact pulls_changeScheduler id _

end Act

end SidecarAgent.Simulation
