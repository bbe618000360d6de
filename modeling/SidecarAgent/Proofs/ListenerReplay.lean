import SidecarAgent.Proofs.ManagerRun

/-!
# What a listener can know

A listener that is registered at some point of a run hears what is published from there on, under
the keys of its pattern (`heard_eq`).  It can keep up with the merged values by replaying what it
hears (`heard_leads`).
-/

namespace SidecarAgent.Config

universe u

variable {ι : Type u}

namespace Manager

/-! ## A listener of a run -/

/-- The manager that a run on a new manager ends with. -/
def after (ops : List (Operation ι)) : Manager ι ℕ := (run {} ops).manager

/-- What the listener receives that a run registers between its operations `before` and `later`. -/
def heard (before : List (Operation ι)) (pattern : String)
    (later : List (Operation ι)) : List Event :=
  received (after before).listeners.length
    (run {} (before ++ .listen pattern :: later)).deliveries

/-- The mergings of a run behind the operations `before`. -/
def mergingsBehind (before later : List (Operation ι)) : List Merging :=
  (after before).runMergings later

variable (before : List (Operation ι)) (pattern : String) (later : List (Operation ι))

/-- The listeners of a run on a new manager are numbered. -/
theorem numbered_after (ops : List (Operation ι)) : (after ops).Numbered :=
  numbered_run (m := {}) rfl ops

/-- A listener that is registered between the operations of a run is there in the end. -/
theorem mem_listeners_after :
    (KeyPattern.parse pattern, (after before).listeners.length) ∈
      (after (before ++ .listen pattern :: later)).listeners := by
  have hlistens : (KeyPattern.parse pattern, (after before).listeners.length) ∈
      ((Operation.listen pattern).perform (after before)).manager.listeners := by
    rw [Operation.listeners_perform]
    exact List.mem_append_right _ (by simp [Operation.pattern?])
  unfold after
  rw [manager_run_append]
  exact mem_listeners_run hlistens later

/-- A listener receives what is published, after its registration, under the keys of its pattern. -/
theorem heard_eq :
    heard before pattern later =
      ((mergingsBehind before (.listen pattern :: later)).flatMap Merging.events).filter
        fun e => (KeyPattern.parse pattern).accepts e.key := by
  have hstart : (after before).Numbered := numbered_after before
  have hnothing : received (after before).listeners.length (run {} before).deliveries = [] :=
    received_run_of_le (m := {}) rfl before le_rfl
  -- from its registration on, the number belongs to the listener
  have hlistens : (KeyPattern.parse pattern, (after before).listeners.length) ∈
      ((Operation.listen pattern).perform (after before)).manager.listeners := by
    rw [Operation.listeners_perform]
    exact List.mem_append_right _ (by simp [Operation.pattern?])
  have hrest := received_run_of_mem (numbered_perform hstart (.listen pattern)) hlistens later
  unfold heard
  rw [deliveries_run_append, received_append, hnothing, List.nil_append]
  exact hrest

/-- A listener for every key hears everything that is published after its registration. -/
theorem heard_star :
    heard before "*" later =
      (mergingsBehind before (.listen "*" :: later)).flatMap Merging.events := by
  rw [heard_eq]
  exact List.filter_eq_self.2 fun e _ => rfl

/-- A listener for every key goes on hearing everything that is published. -/
theorem heard_star_append (more : List (Operation ι)) :
    heard before "*" (later ++ more) =
      heard before "*" later ++
        (mergingsBehind (before ++ .listen "*" :: later) more).flatMap Merging.events := by
  have hmore : mergingsBehind before (.listen "*" :: (later ++ more)) =
      mergingsBehind before (.listen "*" :: later) ++
        mergingsBehind (before ++ .listen "*" :: later) more := by
    unfold mergingsBehind after
    rw [← List.cons_append, runMergings_append, manager_run_append]
  rw [heard_star, heard_star, hmore, List.flatMap_append]

/-- From a registration on, the merged entries pass through the mergings of the operations. -/
theorem passes_behind :
    Passes ι (after before).view.merged (mergingsBehind before later)
      (after (before ++ later)).view.merged := by
  have hpasses := passes_run (after before) later
  unfold after at hpasses ⊢
  rw [manager_run_append]
  exact hpasses

/-- What a listener receives leads from the merged values at its registration to the current ones,
under the keys of its pattern. -/
theorem heard_leads :
    Leads ((KeyPattern.parse pattern).restrict (after before).view.values)
      (heard before pattern later)
      ((KeyPattern.parse pattern).restrict
        (after (before ++ .listen pattern :: later)).view.values) := by
  rw [heard_eq]
  exact (passes_behind before (.listen pattern :: later)).leads.restrict _

/-- A listener for every key that is registered before any source is can build the merged values
from nothing. -/
theorem foldl_replay_heard {before : List (Operation ι)}
    (hbefore : ∀ op ∈ before, op.registration? = none) (later : List (Operation ι)) :
    (heard before "*" later).foldl Event.replay ∅ =
      (after (before ++ .listen "*" :: later)).view.values := by
  have hleads := (passes_behind before (.listen "*" :: later)).leads
  have hempty : (after before).view.merged.map Owned.value = ∅ := values_run_eq_empty hbefore
  rw [heard_star, ← hempty]
  exact hleads.foldl_replay_eq

/-- A listener of any pattern, registered at any point of any run, can replay what it receives on
the merged values it was registered with, and has the current ones; all of that under the keys of
its pattern.  Every event is a real change where it is replayed.  It is published by one of the
mergings that the run passes through, and attributed to the owner of its key in that merging. -/
theorem replay_heard :
    ((heard before pattern later).foldl Event.replay
        ((KeyPattern.parse pattern).restrict (after before).view.values) =
      (KeyPattern.parse pattern).restrict
        (after (before ++ .listen pattern :: later)).view.values) ∧
    (∀ earlier e rest, heard before pattern later = earlier ++ e :: rest →
      e.Fits (earlier.foldl Event.replay
        ((KeyPattern.parse pattern).restrict (after before).view.values))) ∧
    (heard before pattern later =
      (mergingsBehind before (.listen pattern :: later)).flatMap fun m =>
        m.events.filter fun e => (KeyPattern.parse pattern).accepts e.key) ∧
    Passes ι (after before).view.merged (mergingsBehind before (.listen pattern :: later))
      (after (before ++ .listen pattern :: later)).view.merged ∧
    ∀ m ∈ mergingsBehind before (.listen pattern :: later), ∀ e ∈ m.events, e.AttributedIn m := by
  have hleads := heard_leads before pattern later
  have hpasses := passes_behind before (.listen pattern :: later)
  refine ⟨hleads.foldl_replay_eq, hleads.fits, ?_, hpasses, ?_⟩
  · rw [heard_eq, List.filter_flatMap]
  · intro m hm e he
    exact (hpasses.sound m hm).attributed e he

end Manager

end SidecarAgent.Config
