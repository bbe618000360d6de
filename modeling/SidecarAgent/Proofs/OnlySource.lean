import SidecarAgent.Proofs.SourceEvents

/-!
# A manager with one source

Where a manager has one source (`Manager.HasOnly`), the merged values are those of the source, and
what the source reports is published as it is: first the creations of what it has to begin with
(`deliveries_addSource_first`), and then every event that is a real change of what it has
(`HasOnly.exists_apply`).
-/

namespace SidecarAgent.Config

universe u

variable {ι : Type u}

namespace Manager

/-! ## A manager with one source -/

/-- The manager has one source, and it is this one. -/
def HasOnly {lis : Type} (m : Manager ι lis) (r : Registered ι) : Prop := m.view.sources = [r]

variable {lis : Type} {m : Manager ι lis} {r : Registered ι}

/-- The first source that is added is the only one. -/
theorem hasOnly_addSource (h : m.view.sources = []) (name : String) (priority : ℤ) (source : ι)
    (pulled : Option Snapshot) :
    (m.addSource name priority source pulled).manager.HasOnly
      ⟨name, priority, source, pulled.getD ∅⟩ := by
  show ((m.view.place ⟨name, priority, source, pulled.getD ∅⟩).remergeKeys
    (pulled.getD ∅).keys).1.sources = _
  rw [View.remergeKeys_sources]
  show View.insertSource _ m.view.sources = _
  rw [h]
  rfl

/-- The only source enters its event. -/
theorem HasOnly.apply (h : m.HasOnly r) {e : Event} (he : e.source = r.name) :
    (m.apply e).manager.HasOnly { r with snapshot := e.replay r.snapshot } := by
  have hsources : m.view.sources = [r] := h
  have hknows : m.view.knows e.source = true := by
    unfold View.knows
    rw [hsources, he]
    simp
  unfold HasOnly Manager.apply View.enter?
  rw [if_pos hknows]
  show View.modifyFirst e.source _ m.view.sources = _
  rw [hsources, he]
  unfold View.modifyFirst
  rw [if_pos rfl]

/-- The only source enters its events one after another. -/
theorem HasOnly.applyAll (h : m.HasOnly r) {es : List Event} (hes : ∀ e ∈ es, e.source = r.name) :
    (m.applyAll es).manager.HasOnly { r with snapshot := es.foldl Event.replay r.snapshot } := by
  induction es generalizing m r with
  | nil => exact h
  | cons e rest ih =>
    have hfirst := h.apply (hes e (by simp))
    exact ih hfirst fun f hf => hes f (by simp [hf])

/-- A refresh in which the only source answers with its changes enters them. -/
theorem HasOnly.refresh_changed (h : m.HasOnly r) {es : List Event}
    (hes : ∀ e ∈ es, e.source = r.name) :
    (m.refresh fun _ => .changed es).manager.HasOnly
      { r with snapshot := es.foldl Event.replay r.snapshot } := by
  have hsources : m.view.sources = [r] := h
  unfold Manager.refresh
  rw [hsources]
  exact h.applyAll hes

/-- A refresh in which the only source fails leaves it as it is. -/
theorem HasOnly.refresh_failed (h : m.HasOnly r) :
    (m.refresh fun _ => .failed).manager.HasOnly r := by
  have hsources : m.view.sources = [r] := h
  unfold Manager.refresh
  rw [hsources]
  exact h

/-- The merged values of the only source are its own. -/
theorem HasOnly.values_eq (h : m.HasOnly r) (hresolved : m.view.Resolved) :
    m.view.values = r.snapshot := by
  have hsources : m.view.sources = [r] := h
  ext1 k
  rw [View.get?_values]
  unfold View.get?
  rw [hresolved k, hsources, View.resolve_cons]
  unfold View.Registered.owned?
  cases r.snapshot.get? k <;> rfl

/-! ## What the only source publishes -/

/-- The events that create what a snapshot has, in the order of its keys. -/
def creations (name : String) (s : Snapshot) : List Event :=
  s.entries.map fun e => ⟨name, e.1, .create e.2⟩

/-- The first source that is added publishes the creations of what it has. -/
theorem deliveries_addSource_first (h : m.view.sources = []) (hm : m.view.Resolved) (name : String)
    (priority : ℤ) (source : ι) (pulled : Option Snapshot) :
    (m.addSource name priority source pulled).deliveries =
      m.dispatch (creations name (pulled.getD ∅)) := by
  have hnone : ∀ k, m.view.merged.get? k = none := by
    intro k
    rw [hm k, h]
    rfl
  have hevent : ∀ e ∈ (pulled.getD ∅).entries,
      View.transition? e.1 none
        (View.resolve [⟨name, priority, source, pulled.getD ∅⟩] e.1) =
        some ⟨name, e.1, .create e.2⟩ := by
    intro e he
    have hget := (KeyMap.mem_entries_iff (pulled.getD ∅) e.1 e.2).1 he
    rw [View.resolve_cons]
    unfold View.Registered.owned?
    dsimp only
    rw [hget]
    rfl
  have hsources : (m.view.place ⟨name, priority, source, pulled.getD ∅⟩).sources =
      [⟨name, priority, source, pulled.getD ∅⟩] := by
    show View.insertSource _ m.view.sources = _
    rw [h]
    rfl
  have hmerged : (m.view.place ⟨name, priority, source, pulled.getD ∅⟩).merged = m.view.merged :=
    rfl
  have hevents : (m.view.register ⟨name, priority, source, pulled.getD ∅⟩).2 =
      creations name (pulled.getD ∅) := by
    show ((m.view.place ⟨name, priority, source, pulled.getD ∅⟩).remergeKeys
      (pulled.getD ∅).keys).2 = _
    rw [View.events_remergeKeys _ (pulled.getD ∅).keys_nodup, hsources, hmerged]
    simp only [hnone]
    unfold KeyMap.keys creations
    rw [List.filterMap_map, ← List.filterMap_eq_map]
    exact List.filterMap_congr hevent
  show m.dispatch (m.view.register _).2 = _
  rw [hevents]

/-- A real change of the only source is the transition of its key. -/
theorem transition?_of_fits {e : Event} (hsource : e.source = r.name) (hfits : e.Fits r.snapshot) :
    View.transition? e.key (View.resolve [r] e.key)
      (View.resolve [{ r with snapshot := e.replay r.snapshot }] e.key) = some e := by
  obtain ⟨source, key, change⟩ := e
  rw [View.resolve_cons, View.resolve_cons]
  unfold View.Registered.owned?
  unfold Event.Fits at hfits
  dsimp only at hsource hfits ⊢
  rw [get?_replay, if_pos rfl, hsource]
  cases change with
  | create v =>
    dsimp only at hfits
    rw [hfits]
    rfl
  | update v =>
    obtain ⟨u, hu, hne⟩ := hfits
    rw [hu]
    simp [View.transition?, View.resolve, Change.value?, hne]
  | delete =>
    obtain ⟨u, hu⟩ := hfits
    rw [hu]
    rfl

/-- A real change that the only source reports is entered, and published as it is. -/
theorem HasOnly.exists_apply (h : m.HasOnly r) (hm : m.view.Resolved) {e : Event}
    (hsource : e.source = r.name) (hfits : e.Fits r.snapshot) :
    ∃ v : View ι, m.apply e = ⟨{ m with view := v }, m.dispatch [e], []⟩ ∧
      v.sources = [{ r with snapshot := e.replay r.snapshot }] ∧ v.Resolved := by
  have hbetween : m.view.HasBetween [] r [] := ⟨h, by simp⟩
  have hsources : m.view.sources = [r] := h
  obtain ⟨v, hentered, hv, hresolved⟩ := hbetween.exists_enter? hm hsource
  have hpublished := transition?_of_fits hsource hfits
  rw [hsources] at hentered
  refine ⟨v, ?_, hv.sources_eq, hresolved⟩
  rw [apply_of_enter? hentered]
  show Effect.mk _ (m.dispatch (View.transition? _ _ (View.resolve [_] _)).toList) _ = _
  rw [hpublished]
  rfl

/-- Real changes that the only source reports one after another are published as they are. -/
theorem HasOnly.deliveries_applyAll (h : m.HasOnly r) (hm : m.view.Resolved) {es : List Event}
    {t : Snapshot} (hes : ∀ e ∈ es, e.source = r.name) (hleads : Leads r.snapshot es t) :
    (m.applyAll es).deliveries = m.dispatch es ∧ (m.applyAll es).manager.view.Resolved := by
  induction es generalizing m r with
  | nil => exact ⟨rfl, hm⟩
  | cons e rest ih =>
    cases hleads with
    | cons hfits hrest =>
      obtain ⟨v, hentered, hsources, hresolved⟩ := h.exists_apply hm (hes e (by simp)) hfits
      have hlater : ∀ f ∈ rest, f.source = r.name := fun f hf => hes f (by simp [hf])
      obtain ⟨hdeliveries, hafter⟩ := ih (m := { m with view := v }) hsources hresolved hlater hrest
      -- who gets an event depends on the listeners only, which stay
      have hsame : Manager.dispatch { m with view := v } rest = m.dispatch rest :=
        dispatch_congr rfl rest
      unfold Manager.applyAll
      rw [hentered]
      refine ⟨?_, hafter⟩
      show m.dispatch [e] ++ (Manager.applyAll { m with view := v } rest).deliveries = _
      rw [hdeliveries, hsame, ← dispatch_append, List.singleton_append]

/-- A refresh in which the only source answers with real changes publishes them as they are: merging
every key again adds nothing. -/
theorem HasOnly.deliveries_refresh_changed (h : m.HasOnly r)
    (hm : m.view.Resolved) {es : List Event}
    {t : Snapshot} (hes : ∀ e ∈ es, e.source = r.name) (hleads : Leads r.snapshot es t) :
    (m.refresh fun _ => .changed es).deliveries = m.dispatch es := by
  have hsources : m.view.sources = [r] := h
  obtain ⟨hdeliveries, hafter⟩ := h.deliveries_applyAll hm hes hleads
  unfold Manager.refresh
  rw [hsources]
  show (m.applyAll es).deliveries ++ ((m.applyAll es).manager.replaceAll []).deliveries = _
  rw [replaceAll_nil_of_resolved hafter, hdeliveries]
  exact List.append_nil _

end Manager

/-- Everything that a snapshot has is created from nothing. -/
theorem creations_eq_diff (name : String) (s : Snapshot) :
    Manager.creations name s = diff name ∅ s := by
  have hsettings : settings ∅ s = s.entries.map fun e => (e.1, .create e.2) := by
    unfold settings changeTo?
    rw [← List.filterMap_eq_map]
    rfl
  have hdeletions : deletions ∅ s = [] := rfl
  unfold Manager.creations diff changes
  rw [hsettings, hdeletions, List.append_nil, List.map_map]
  rfl

end SidecarAgent.Config
