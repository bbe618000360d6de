import SidecarAgent.Proofs.ManagerSteps

/-!
# Runs of a manager

A run carries out operations one after another.  The listeners of a run are numbered in the order of
their registration, and `received` collects what one of them got.  Every run keeps its view orderly
(`orderly_run`), passes through the mergings of its operations (`passes_run`), and hands every
listener what those mergings publish under the keys of its pattern (`received_run_of_mem`).  So in
every state that a run reaches, a key belongs to the first source that has it.
-/

namespace SidecarAgent.Config

universe u

variable {ι : Type u}

/-! ## Operations -/

/-- What can be done with a manager.  A source is added with what it was asked for, if it answered,
and a refresh is given the answers of the sources by their place. -/
inductive Operation (ι : Type u) where
  | listen (pattern : String)
  | addSource (name : String) (priority : ℤ) (source : ι) (pulled : Option Snapshot)
  | apply (e : Event)
  | refresh (answer : ℕ → Answer)

namespace Operation

/-- What an operation does.  A listener gets the number of listeners before it. -/
def perform (m : Manager ι ℕ) : Operation ι → Manager.Effect ι ℕ
  | listen pattern => ⟨m.listen pattern m.listeners.length, [], []⟩
  | addSource name priority source pulled => m.addSource name priority source pulled
  | apply e => m.apply e
  | refresh answer => m.refresh answer

/-- The mergings of an operation. -/
def mergings (m : Manager ι ℕ) : Operation ι → List Merging
  | listen _ => []
  | addSource name priority source pulled =>
    (m.view.place ⟨name, priority, source, pulled.getD ∅⟩).keyMergings (pulled.getD ∅).keys
  | apply e => m.applyMergings e
  | refresh answer =>
    m.refreshMergings [] (m.view.sources.mapIdx fun n r => (r.name, answer n))

/-- The registration that an operation makes of a source. -/
def registration? : Operation ι → Option (Registration ι)
  | addSource name priority source _ => some ⟨name, priority, source⟩
  | listen _ | apply _ | refresh _ => none

/-- The pattern for which an operation registers a listener. -/
def pattern? : Operation ι → Option String
  | listen pattern => some pattern
  | addSource _ _ _ _ | apply _ | refresh _ => none

/-- An operation that registers no listener is explained by its mergings. -/
theorem explains_perform (m : Manager ι ℕ) {op : Operation ι} (h : op.pattern? = none) :
    m.Explains (op.mergings m) (op.perform m) := by
  cases op with
  | listen pattern => cases h
  | addSource name priority source pulled => exact m.explains_addSource name priority source pulled
  | apply e => exact m.explains_apply e
  | refresh answer => exact m.explains_enterAnswers [] _

/-- Only registering a listener has a pattern. -/
theorem eq_listen_of_pattern? {op : Operation ι} {pattern : String}
    (h : op.pattern? = some pattern) : op = listen pattern := by
  cases op <;> cases h
  rfl

/-- The merged entries pass through the mergings of an operation. -/
theorem passes_perform (m : Manager ι ℕ) (op : Operation ι) :
    Passes ι m.view.merged (op.mergings m) (op.perform m).manager.view.merged := by
  cases hpattern : op.pattern? with
  | some pattern =>
    rw [eq_listen_of_pattern? hpattern]
    exact .nil _
  | none => exact (explains_perform m hpattern).passes

/-- An operation delivers what its mergings publish. -/
theorem deliveries_perform (m : Manager ι ℕ) (op : Operation ι) :
    (op.perform m).deliveries = m.dispatch ((op.mergings m).flatMap Merging.events) := by
  cases hpattern : op.pattern? with
  | some pattern =>
    rw [eq_listen_of_pattern? hpattern]
    rfl
  | none => exact (explains_perform m hpattern).deliveries

/-- An operation adds the listener that it registers, and no other. -/
theorem listeners_perform (m : Manager ι ℕ) (op : Operation ι) :
    (op.perform m).manager.listeners =
      m.listeners ++
        (op.pattern?.map fun p => (KeyPattern.parse p, m.listeners.length)).toList := by
  cases hpattern : op.pattern? with
  | some pattern =>
    rw [eq_listen_of_pattern? hpattern]
    rfl
  | none =>
    rw [(explains_perform m hpattern).listeners]
    exact (List.append_nil _).symm

/-- An operation keeps the view orderly. -/
theorem orderly_perform {m : Manager ι ℕ} {rs : List (Registration ι)} (hm : m.view.Orderly rs)
    (op : Operation ι) :
    (op.perform m).manager.view.Orderly (rs ++ op.registration?.toList) := by
  cases op with
  | listen pattern =>
    show m.view.Orderly (rs ++ [])
    rwa [List.append_nil]
  | addSource name priority source pulled =>
    exact hm.register ⟨name, priority, source, pulled.getD ∅⟩
  | apply e =>
    show (m.apply e).manager.view.Orderly (rs ++ [])
    rw [List.append_nil]
    exact Manager.orderly_apply hm e
  | refresh answer =>
    show (m.refresh answer).manager.view.Orderly (rs ++ [])
    rw [List.append_nil]
    exact Manager.orderly_enterAnswers hm [] _

end Operation

/-! ## Runs -/

namespace Manager

/-- Carries out operations one after another. -/
def run (m : Manager ι ℕ) : List (Operation ι) → Effect ι ℕ
  | [] => ⟨m, [], []⟩
  | op :: rest =>
    let first := op.perform m
    let later := first.manager.run rest
    ⟨later.manager, first.deliveries ++ later.deliveries, first.notes ++ later.notes⟩

/-- The mergings of a run. -/
def runMergings (m : Manager ι ℕ) : List (Operation ι) → List Merging
  | [] => []
  | op :: rest => op.mergings m ++ (op.perform m).manager.runMergings rest

/-- A run goes on where the one before it ended. -/
theorem manager_run_append (m : Manager ι ℕ) (ops more : List (Operation ι)) :
    (m.run (ops ++ more)).manager = ((m.run ops).manager.run more).manager := by
  induction ops generalizing m with
  | nil => rfl
  | cons op rest ih => exact ih (op.perform m).manager

/-- A run that goes on delivers more. -/
theorem deliveries_run_append (m : Manager ι ℕ) (ops more : List (Operation ι)) :
    (m.run (ops ++ more)).deliveries =
      (m.run ops).deliveries ++ ((m.run ops).manager.run more).deliveries := by
  induction ops generalizing m with
  | nil => rfl
  | cons op rest ih =>
    have hrest := ih (op.perform m).manager
    simp only [List.cons_append, run, hrest, List.append_assoc]

/-- A run that goes on has more mergings. -/
theorem runMergings_append (m : Manager ι ℕ) (ops more : List (Operation ι)) :
    m.runMergings (ops ++ more) = m.runMergings ops ++ (m.run ops).manager.runMergings more := by
  induction ops generalizing m with
  | nil => rfl
  | cons op rest ih =>
    have hrest := ih (op.perform m).manager
    simp only [List.cons_append, run, runMergings, hrest, List.append_assoc]

/-- Events are entered as by a run that enters one after another. -/
theorem applyAll_eq_run (m : Manager ι ℕ) (es : List Event) :
    m.applyAll es = m.run (es.map .apply) := by
  induction es generalizing m with
  | nil => rfl
  | cons e rest ih =>
    rw [applyAll, ih]
    rfl

/-- The merged entries pass through the mergings of a run. -/
theorem passes_run (m : Manager ι ℕ) (ops : List (Operation ι)) :
    Passes ι m.view.merged (m.runMergings ops) (m.run ops).manager.view.merged := by
  induction ops generalizing m with
  | nil => exact .nil _
  | cons op rest ih => exact (op.passes_perform m).append (ih (op.perform m).manager)

/-- A run keeps the view orderly. -/
theorem orderly_run {m : Manager ι ℕ} {rs : List (Registration ι)} (hm : m.view.Orderly rs)
    (ops : List (Operation ι)) :
    (m.run ops).manager.view.Orderly (rs ++ ops.filterMap Operation.registration?) := by
  induction ops generalizing m rs with
  | nil =>
    rw [List.filterMap_nil, List.append_nil]
    exact hm
  | cons op rest ih =>
    have hrest := ih (Operation.orderly_perform hm op)
    rw [List.append_assoc] at hrest
    cases hop : op.registration? with
    | none =>
      rw [List.filterMap_cons_none hop]
      rwa [hop] at hrest
    | some r =>
      rw [List.filterMap_cons_some hop]
      rwa [hop] at hrest

/-- The view of a new manager is orderly. -/
theorem orderly_empty : ({} : Manager ι ℕ).view.Orderly [] :=
  ⟨fun _ => rfl, List.Pairwise.nil, fun _ => rfl⟩

/-- Before any source is registered there are no sources. -/
theorem sources_run_eq_nil {ops : List (Operation ι)} (h : ∀ op ∈ ops, op.registration? = none) :
    (run {} ops).manager.view.sources = [] := by
  have horderly := orderly_run orderly_empty ops
  have hnone : [] ++ ops.filterMap Operation.registration? = [] := List.filterMap_eq_nil_iff.2 h
  rw [hnone] at horderly
  refine List.eq_nil_iff_forall_not_mem.2 fun r hr => ?_
  -- the sources of the priority of `r` are registered in `ops`, where no source is
  have hmem : r.registration ∈ ([] : List (Registration ι)).filter
      fun s => s.priority = r.registration.priority := by
    rw [← horderly.inOrder, List.mem_filter]
    exact ⟨List.mem_map_of_mem hr, decide_eq_true rfl⟩
  cases hmem

/-- Before any source is registered there are no merged values. -/
theorem values_run_eq_empty {ops : List (Operation ι)} (h : ∀ op ∈ ops, op.registration? = none) :
    (run {} ops).manager.view.values = ∅ := by
  have hresolved := (orderly_run orderly_empty ops).resolved
  ext1 k
  rw [View.get?_values, KeyMap.get?_emptyCollection]
  unfold View.get?
  rw [hresolved k, sources_run_eq_nil h]
  rfl

/-! ## Numbered listeners -/

/-- What the listener of a number got of some deliveries. -/
def received (number : ℕ) (deliveries : List (ℕ × Event)) : List Event :=
  (deliveries.filter fun d => d.1 = number).map Prod.snd

/-- What is delivered later is received later. -/
theorem received_append (number : ℕ) (ds fs : List (ℕ × Event)) :
    received number (ds ++ fs) = received number ds ++ received number fs := by
  unfold received
  rw [List.filter_append, List.map_append]

/-- The listeners are numbered in the order of their registration. -/
def Numbered (m : Manager ι ℕ) : Prop := m.listeners.map Prod.snd = List.range m.listeners.length

/-- An operation keeps the listeners numbered. -/
theorem numbered_perform {m : Manager ι ℕ} (hm : m.Numbered) (op : Operation ι) :
    (op.perform m).manager.Numbered := by
  unfold Numbered at hm ⊢
  rw [op.listeners_perform]
  cases op.pattern? with
  | none =>
    rw [Option.map_none, Option.toList_none, List.append_nil]
    exact hm
  | some pattern =>
    rw [Option.map_some, Option.toList_some, List.map_append, hm, List.length_append]
    exact (List.range_succ).symm

/-- A run keeps the listeners numbered. -/
theorem numbered_run {m : Manager ι ℕ} (hm : m.Numbered) (ops : List (Operation ι)) :
    (m.run ops).manager.Numbered := by
  induction ops generalizing m with
  | nil => exact hm
  | cons op rest ih => exact ih (numbered_perform hm op)

/-- A run takes no listener away. -/
theorem length_listeners_le_run (m : Manager ι ℕ) (ops : List (Operation ι)) :
    m.listeners.length ≤ (m.run ops).manager.listeners.length := by
  induction ops generalizing m with
  | nil => exact le_rfl
  | cons op rest ih =>
    refine le_trans ?_ (ih (op.perform m).manager)
    rw [op.listeners_perform, List.length_append]
    omega

/-- A run keeps every listener. -/
theorem mem_listeners_run {m : Manager ι ℕ} {l : KeyPattern × ℕ} (hmem : l ∈ m.listeners)
    (ops : List (Operation ι)) : l ∈ (m.run ops).manager.listeners := by
  induction ops generalizing m with
  | nil => exact hmem
  | cons op rest ih =>
    refine ih ?_
    rw [op.listeners_perform]
    exact List.mem_append_left _ hmem

/-- A number without a listener receives nothing of an event. -/
theorem received_hearers_of_not_mem {ls : List (KeyPattern × ℕ)} {n : ℕ}
    (hn : n ∉ ls.map Prod.snd) (e : Event) :
    received n ((ls.filter fun l => l.1.accepts e.key).map fun l => (l.2, e)) = [] := by
  unfold received
  rw [List.map_eq_nil_iff, List.filter_eq_nil_iff]
  intro d hd
  obtain ⟨l, hl, rfl⟩ := List.mem_map.1 hd
  have hother : l.2 ≠ n := fun heq => hn (heq ▸ List.mem_map_of_mem (List.mem_filter.1 hl).1)
  simpa using hother

/-- A listener receives an event once if its pattern matches the key, and otherwise not. -/
theorem received_hearers_of_mem {ls : List (KeyPattern × ℕ)} (hnodup : (ls.map Prod.snd).Nodup)
    {p : KeyPattern} {n : ℕ} (hmem : (p, n) ∈ ls) (e : Event) :
    received n ((ls.filter fun l => l.1.accepts e.key).map fun l => (l.2, e)) =
      if p.accepts e.key then [e] else [] := by
  induction ls with
  | nil => cases hmem
  | cons l rest ih =>
    rw [List.map_cons, List.nodup_cons] at hnodup
    have hsplit : received n (((l :: rest).filter fun l => l.1.accepts e.key).map
        fun l => (l.2, e)) =
        received n (([l].filter fun l => l.1.accepts e.key).map fun l => (l.2, e)) ++
          received n ((rest.filter fun l => l.1.accepts e.key).map fun l => (l.2, e)) := by
      rw [← received_append, ← List.map_append, ← List.filter_append, List.singleton_append]
    rw [hsplit]
    -- the number is that of `l` or of a later listener, and never of both
    rcases List.mem_cons.1 hmem with rfl | hmem
    · rw [received_hearers_of_not_mem hnodup.1, List.append_nil]
      cases haccepts : p.accepts e.key <;> simp [received, haccepts]
    · have hother : n ∉ [l].map Prod.snd := by
        rw [List.map_singleton, List.mem_singleton]
        rintro rfl
        exact hnodup.1 (List.mem_map.2 ⟨(p, l.2), hmem, rfl⟩)
      rw [received_hearers_of_not_mem hother, List.nil_append, ih hnodup.2 hmem]

/-- A number without a listener receives nothing. -/
theorem received_dispatch_of_le {m : Manager ι ℕ} (hm : m.Numbered) {n : ℕ}
    (hn : m.listeners.length ≤ n) (es : List Event) : received n (m.dispatch es) = [] := by
  have hnone : n ∉ m.listeners.map Prod.snd := by
    rw [hm, List.mem_range]
    omega
  induction es with
  | nil => rfl
  | cons e rest ih =>
    rw [← List.singleton_append, dispatch_append, received_append, ih, List.append_nil]
    unfold dispatch
    rw [List.flatMap_singleton]
    exact received_hearers_of_not_mem hnone e

/-- A listener receives the events whose keys its pattern matches. -/
theorem received_dispatch_of_mem {m : Manager ι ℕ} (hm : m.Numbered) {p : KeyPattern} {n : ℕ}
    (hmem : (p, n) ∈ m.listeners) (es : List Event) :
    received n (m.dispatch es) = es.filter fun e => p.accepts e.key := by
  have hnodup : (m.listeners.map Prod.snd).Nodup := by
    rw [hm]
    exact List.nodup_range
  induction es with
  | nil => rfl
  | cons e rest ih =>
    have hfirst : received n (m.dispatch [e]) = if p.accepts e.key then [e] else [] := by
      unfold dispatch
      rw [List.flatMap_singleton]
      exact received_hearers_of_mem hnodup hmem e
    rw [← List.singleton_append, dispatch_append, received_append, ih, hfirst, List.filter_append]
    cases haccepts : p.accepts e.key <;> simp [haccepts]

/-- A listener for every key receives all that is dispatched. -/
theorem received_dispatch_star {m : Manager ι ℕ} (hm : m.Numbered) {n : ℕ}
    (hmem : (KeyPattern.parse "*", n) ∈ m.listeners) (es : List Event) :
    received n (m.dispatch es) = es := by
  rw [received_dispatch_of_mem hm hmem]
  exact List.filter_eq_self.2 fun e _ => rfl

/-- Before a listener is registered, nothing is received under its number. -/
theorem received_run_of_le {m : Manager ι ℕ} (hm : m.Numbered) {n : ℕ} (ops : List (Operation ι))
    (hn : (m.run ops).manager.listeners.length ≤ n) : received n (m.run ops).deliveries = [] := by
  induction ops generalizing m with
  | nil => rfl
  | cons op rest ih =>
    have hfirst : m.listeners.length ≤ n := le_trans (length_listeners_le_run m (op :: rest)) hn
    show received n ((op.perform m).deliveries ++ ((op.perform m).manager.run rest).deliveries) = []
    rw [received_append, op.deliveries_perform, received_dispatch_of_le hm hfirst,
      ih (numbered_perform hm op) hn, List.append_nil]

/-- A listener of a run receives what the mergings publish under the keys of its pattern. -/
theorem received_run_of_mem {m : Manager ι ℕ} (hm : m.Numbered) {p : KeyPattern} {n : ℕ}
    (hmem : (p, n) ∈ m.listeners) (ops : List (Operation ι)) :
    received n (m.run ops).deliveries =
      ((m.runMergings ops).flatMap Merging.events).filter fun e => p.accepts e.key := by
  induction ops generalizing m with
  | nil => rfl
  | cons op rest ih =>
    have hkept : (p, n) ∈ (op.perform m).manager.listeners := by
      rw [op.listeners_perform]
      exact List.mem_append_left _ hmem
    show received n ((op.perform m).deliveries ++ ((op.perform m).manager.run rest).deliveries) = _
    rw [received_append, op.deliveries_perform, received_dispatch_of_mem hm hmem,
      ih (numbered_perform hm op) hkept, ← List.filter_append, ← List.flatMap_append]
    rfl

/-! ## Whom a key belongs to -/

/-- In every state that a run reaches, the sources stand in the order of their priorities and, among
equals, of their registration; and every key has the value and the owner that the first source with
the key gives it, or nothing if no source has it.

A state in the middle of a refresh is the state after some applied events (`applyAll_eq_run`), so it
is one of these too. -/
theorem belongs_to_first_source (ops : List (Operation ι)) :
    let v := (run {} ops).manager.view
    (v.sources.Pairwise fun r s => r.priority ≤ s.priority) ∧
    (∀ p : ℤ, (v.sources.map Registered.registration).filter (fun r => r.priority = p) =
      (ops.filterMap Operation.registration?).filter fun r => r.priority = p) ∧
    ∀ key,
      ((∀ r ∈ v.sources, r.snapshot.get? key = none) ∧
        v.merged.get? key = none ∧ v.get? key = none ∧ v.owner? key = none ∧
        v.values.get? key = none) ∨
      ∃ before r after value, v.sources = before ++ r :: after ∧
        (∀ s ∈ before, s.snapshot.get? key = none) ∧ r.snapshot.get? key = some value ∧
        v.merged.get? key = some ⟨r.name, value⟩ ∧ v.get? key = some value ∧
        v.owner? key = some r.name ∧ v.values.get? key = some value := by
  intro v
  have horderly : v.Orderly (ops.filterMap Operation.registration?) :=
    orderly_run orderly_empty ops
  refine ⟨horderly.sorted, horderly.inOrder, fun key => ?_⟩
  have hresolved := horderly.resolved key
  rw [View.get?_values]
  unfold View.get? View.owner?
  cases hfound : v.merged.get? key with
  | none =>
    rw [hfound] at hresolved
    exact .inl ⟨View.resolve_eq_none_iff.1 hresolved.symm, rfl, rfl, rfl, rfl⟩
  | some o =>
    rw [hfound] at hresolved
    obtain ⟨before, r, after, hsplit, hbefore, hr, hname⟩ :=
      View.resolve_eq_some_iff.1 hresolved.symm
    refine .inr ⟨before, r, after, o.value, hsplit, hbefore, hr, ?_, rfl, ?_, rfl⟩
    · rw [hname]
    · rw [hname]
      rfl

end Manager

end SidecarAgent.Config
