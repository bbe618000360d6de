import SidecarAgent.Proofs.ManagerSteps

/-!
# Entering what one source reports

A source that is the first of its name stands between the sources before it and those behind it
(`View.HasBetween`), and an event that it reports changes its own snapshot and no other
(`HasBetween.exists_enter?`).  Events on different keys publish the transitions from what is found
before all of them to what is found after all of them, however they are ordered
(`HasBetween.events_enterAll`).
-/

namespace SidecarAgent.Config

universe u v

variable {ι : Type u} {lis : Type v}

namespace View

/-! ## A source between others -/

/-- A view has a source between others, of which those before it have other names. -/
structure HasBetween (v : View ι) (before : List (Registered ι)) (r : Registered ι)
    (behind : List (Registered ι)) : Prop where
  sources_eq : v.sources = before ++ r :: behind
  first : ∀ s ∈ before, s.name ≠ r.name

/-- Where all names are different, every source stands between others. -/
theorem exists_hasBetween {v : View ι} (hnames : (v.sources.map Registered.name).Nodup)
    {r : Registered ι} (hr : r ∈ v.sources) : ∃ before behind, v.HasBetween before r behind := by
  obtain ⟨before, behind, hsplit⟩ := List.append_of_mem hr
  rw [hsplit, List.map_append, List.map_cons, List.nodup_append] at hnames
  refine ⟨before, behind, hsplit, fun s hs => ?_⟩
  exact hnames.2.2 s.name (List.mem_map_of_mem hs) r.name (by simp)

/-- Of several sources, the first one of a name changes. -/
theorem modifyFirst_between {before behind : List (Registered ι)} {r : Registered ι}
    (hfirst : ∀ s ∈ before, s.name ≠ r.name) (f : Registered ι → Registered ι) :
    modifyFirst r.name f (before ++ r :: behind) = before ++ f r :: behind := by
  induction before with
  | nil => simp [modifyFirst]
  | cons s rest ih =>
    have hs : s.name ≠ r.name := hfirst s (by simp)
    have hrest := ih fun t ht => hfirst t (by simp [ht])
    rw [List.cons_append, modifyFirst, if_neg hs, hrest, List.cons_append]

/-- What is found under a key depends on a source only through what the source has there. -/
theorem resolve_between_congr (before behind : List (Registered ι)) (r : Registered ι)
    {s t : Snapshot} {key : String} (h : s.get? key = t.get? key) :
    resolve (before ++ { r with snapshot := s } :: behind) key =
      resolve (before ++ { r with snapshot := t } :: behind) key := by
  rw [resolve_append, resolve_append, resolve_cons, resolve_cons]
  unfold Registered.owned?
  dsimp only
  rw [h]

/-- There is no transition where the same is found. -/
theorem transition?_self (key : String) (o : Option Owned) : transition? key o o = none := by
  cases o with
  | none => rfl
  | some o => simp [transition?]

/-- The transitions of the keys of some events are about these keys, in the same order. -/
theorem keys_transitions_sublist (old new : String → Option Owned) (es : List Event) :
    ((es.filterMap fun e => transition? e.key (old e.key) (new e.key)).map Event.key).Sublist
      (es.map Event.key) := by
  induction es with
  | nil => exact .slnil
  | cons e rest ih =>
    rw [List.filterMap_cons]
    split
    · exact ih.cons e.key
    · rename_i f hf
      rw [List.map_cons, List.map_cons, key_of_transition? hf]
      exact ih.cons_cons e.key

namespace HasBetween

variable {v : View ι} {before behind : List (Registered ι)} {r : Registered ι}

/-- Changing the snapshot of the source leaves it where it is. -/
theorem modifySnapshot (h : v.HasBetween before r behind) (f : Snapshot → Snapshot) :
    (v.modifySnapshot r.name f).HasBetween before { r with snapshot := f r.snapshot } behind := by
  refine ⟨?_, h.first⟩
  show modifyFirst r.name _ v.sources = _
  rw [h.sources_eq, modifyFirst_between h.first]

/-- Entering an event of the source replays it on the snapshot of the source, and publishes the
transition of its key. -/
theorem exists_enter? (h : v.HasBetween before r behind) (hv : v.Resolved) {e : Event}
    (he : e.source = r.name) :
    ∃ w, v.enter? e = some (w, transition? e.key (resolve v.sources e.key)
        (resolve (before ++ { r with snapshot := e.replay r.snapshot } :: behind) e.key)) ∧
      w.HasBetween before { r with snapshot := e.replay r.snapshot } behind ∧ w.Resolved := by
  have hknows : v.knows r.name = true := by
    unfold View.knows
    rw [h.sources_eq]
    simp
  have hchanged := h.modifySnapshot fun s => e.replay s
  refine ⟨((v.modifySnapshot r.name fun s => e.replay s).remergeKey e.key).1, ?_, ?_, ?_⟩
  · unfold View.enter?
    rw [he, if_pos hknows, ← hchanged.sources_eq, ← hv e.key]
    rfl
  · exact ⟨hchanged.sources_eq, hchanged.first⟩
  · refine resolved_remergeKey fun k hk => ?_
    rw [resolve_modifySnapshot v r.name fun s => by rw [get?_replay, if_neg hk]]
    exact hv k

/-- An event that has no effect on the snapshot of the source changes nothing and publishes nothing.
-/
theorem enter?_of_replay_eq (h : v.HasBetween before r behind) (hv : v.Resolved) {e : Event}
    (he : e.source = r.name) (hsame : e.replay r.snapshot = r.snapshot) :
    v.enter? e = some (v, none) := by
  obtain ⟨w, hw, hbetween, hresolved⟩ := h.exists_enter? hv he
  rw [hsame] at hw hbetween
  have hsources : w.sources = v.sources := hbetween.sources_eq.trans h.sources_eq.symm
  have hview : w = v := hresolved.eq_of_sources_eq hv hsources
  have hsame : before ++ r :: behind = v.sources := h.sources_eq.symm
  rw [hw, hview, hsame, transition?_self]

end HasBetween

/-! ## Entering many events -/

/-- Enters events one after another, and reports what each of them changes; an event of an unknown
source changes nothing. -/
def enterAll (v : View ι) : List Event → View ι × List Event
  | [] => (v, [])
  | e :: rest =>
    match v.enter? e with
    | none => v.enterAll rest
    | some (v, event) =>
      let (v, events) := enterAll v rest
      (v, event.toList ++ events)

/-- Events of which none changes anything change nothing together, and publish nothing. -/
theorem enterAll_of_unchanged {v : View ι} {es : List Event}
    (h : ∀ e ∈ es, v.enter? e = some (v, none)) : v.enterAll es = (v, []) := by
  induction es with
  | nil => rfl
  | cons e rest ih =>
    rw [enterAll, h e (by simp)]
    dsimp only
    rw [ih fun f hf => h f (by simp [hf])]
    rfl

namespace HasBetween

variable {v : View ι} {before behind : List (Registered ι)} {r : Registered ι} {es : List Event}

/-- Entering events of the source replays them on the snapshot of the source. -/
theorem enterAll (h : v.HasBetween before r behind) (hv : v.Resolved)
    (hes : ∀ e ∈ es, e.source = r.name) :
    (v.enterAll es).1.HasBetween before { r with snapshot := es.foldl Event.replay r.snapshot }
      behind ∧ (v.enterAll es).1.Resolved := by
  induction es generalizing v r with
  | nil => exact ⟨h, hv⟩
  | cons e rest ih =>
    obtain ⟨w, hw, hbetween, hresolved⟩ := h.exists_enter? hv (hes e (by simp))
    have hrest := ih hbetween hresolved fun f hf => hes f (by simp [hf])
    rw [View.enterAll, hw]
    exact hrest

/-- Events of the source on different keys publish the transitions of their keys from before all of
them to after all of them.

The induction is on the events.  No later event has the key of the first one, so that what is found
there after the first one is found there in the end, and what is found under the keys of the others
before them was found there from the start. -/
theorem events_enterAll (h : v.HasBetween before r behind) (hv : v.Resolved)
    (hes : ∀ e ∈ es, e.source = r.name) (hdistinct : (es.map Event.key).Nodup) :
    (v.enterAll es).2 = es.filterMap fun e =>
      transition? e.key (resolve v.sources e.key)
        (resolve (before ++ { r with snapshot := es.foldl Event.replay r.snapshot } :: behind)
          e.key) := by
  induction es generalizing v r with
  | nil => rfl
  | cons e rest ih =>
    rw [List.map_cons, List.nodup_cons] at hdistinct
    obtain ⟨w, hw, hbetween, hresolved⟩ := h.exists_enter? hv (hes e (by simp))
    have hrest := ih hbetween hresolved (fun f hf => hes f (by simp [hf])) hdistinct.2
    have hfirst : resolve (before ++ { r with snapshot := e.replay r.snapshot } :: behind) e.key =
        resolve (before ++ { r with snapshot := (e :: rest).foldl Event.replay r.snapshot } ::
          behind) e.key := by
      refine resolve_between_congr before behind r ?_
      rw [List.foldl_cons, get?_foldl_replay_of_not_mem hdistinct.1]
    have hothers : ∀ f ∈ rest, resolve w.sources f.key = resolve v.sources f.key := by
      intro f hf
      have hkey : f.key ≠ e.key := fun heq => hdistinct.1 (heq ▸ List.mem_map_of_mem hf)
      rw [hbetween.sources_eq, h.sources_eq]
      refine resolve_between_congr before behind r ?_
      rw [get?_replay, if_neg hkey]
    have hlater : (w.enterAll rest).2 = rest.filterMap fun f =>
        transition? f.key (resolve v.sources f.key)
          (resolve (before ++ { r with snapshot := (e :: rest).foldl Event.replay r.snapshot } ::
            behind) f.key) := by
      rw [hrest]
      exact List.filterMap_congr fun f hf => by rw [hothers f hf]; rfl
    rw [View.enterAll, hw]
    show _ ++ (w.enterAll rest).2 = _
    rw [hlater, hfirst, List.filterMap_cons]
    split
    · rename_i hnone
      rw [hnone]
      rfl
    · rename_i f hsome
      rw [hsome]
      rfl

/-- Events of the source on different keys publish at most one event about each of them. -/
theorem events_enterAll_keys_nodup (h : v.HasBetween before r behind) (hv : v.Resolved)
    (hes : ∀ e ∈ es, e.source = r.name) (hdistinct : (es.map Event.key).Nodup) :
    ((v.enterAll es).2.map Event.key).Nodup := by
  rw [h.events_enterAll hv hes hdistinct]
  exact hdistinct.sublist (keys_transitions_sublist _ _ es)

end HasBetween

end View

namespace Manager

/-- Applying an event that a view takes changes the view, and dispatches what that publishes. -/
theorem apply_of_enter? {m : Manager ι lis} {e : Event} {w : View ι} {event : Option Event}
    (h : m.view.enter? e = some (w, event)) :
    m.apply e = ⟨{ m with view := w }, m.dispatch event.toList, []⟩ := by
  unfold apply
  rw [h]
  rfl

/-- Applying events enters them into the view. -/
theorem manager_applyAll (m : Manager ι lis) (es : List Event) :
    (m.applyAll es).manager = { m with view := (m.view.enterAll es).1 } := by
  induction es generalizing m with
  | nil => rfl
  | cons e rest ih =>
    unfold applyAll View.enterAll
    cases hentered : m.view.enter? e with
    | none =>
      unfold apply
      rw [hentered]
      exact ih m
    | some entered =>
      rw [apply_of_enter? hentered]
      exact ih { m with view := entered.1 }

/-- Applying events dispatches what entering them into the view publishes. -/
theorem deliveries_applyAll (m : Manager ι lis) (es : List Event) :
    (m.applyAll es).deliveries = m.dispatch (m.view.enterAll es).2 := by
  induction es generalizing m with
  | nil => rfl
  | cons e rest ih =>
    unfold applyAll View.enterAll
    cases hentered : m.view.enter? e with
    | none =>
      unfold apply
      rw [hentered]
      exact ih m
    | some entered =>
      rw [apply_of_enter? hentered]
      have hrest := ih { m with view := entered.1 }
      dsimp only at hrest ⊢
      rw [hrest, dispatch_append]
      rfl

end Manager

end SidecarAgent.Config
