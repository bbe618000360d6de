import SidecarAgent.Proofs.ListenerReplay

/-!
# The order of registration

Sources are inserted by priority, each behind all that go before it or are its equals.  So the
sources of a view are its candidates in a stable order: sorted by priority, and as they were added
among equals (`sorted_arrange`, `filter_priority_arrange`).  There is only one such order
(`eq_of_filter_priority_eq`), and the merged entries follow from the sources.  Hence candidates may
be added in any order that keeps equals as they are (`registration_order_irrelevant`).
-/

namespace SidecarAgent.Config

universe u

variable {ι : Type u}

namespace View

/-! ## The stable order of sources -/

/-- Sources inserted one after another. -/
def arrange (rs : List (Registered ι)) : List (Registered ι) :=
  rs.foldl (fun sources r => insertSource r sources) []

/-- One more source is inserted last. -/
theorem arrange_concat (rs : List (Registered ι)) (r : Registered ι) :
    arrange (rs ++ [r]) = insertSource r (arrange rs) := by
  unfold arrange
  rw [List.foldl_append, List.foldl_cons, List.foldl_nil]

/-- Inserted sources are sorted. -/
theorem sorted_arrange (rs : List (Registered ι)) : Sorted (arrange rs) := by
  induction rs using List.reverseRecOn with
  | nil => exact List.Pairwise.nil
  | append_singleton rs r ih =>
    rw [arrange_concat]
    exact sorted_insertSource ih r

/-- Among equals, sources stand as they were inserted. -/
theorem filter_priority_arrange (rs : List (Registered ι)) (p : ℤ) :
    (arrange rs).filter (fun r => r.priority = p) = rs.filter fun r => r.priority = p := by
  induction rs using List.reverseRecOn with
  | nil => rfl
  | append_singleton rs r ih =>
    rw [arrange_concat, filter_priority_insertSource (sorted_arrange rs), ih, List.filter_append]

/-- The first of some sorted sources has the least priority of all of them. -/
theorem Sorted.head_priority_le {r s : Registered ι} {rest : List (Registered ι)}
    (hsorted : Sorted (r :: rest)) (hs : s ∈ r :: rest) : r.priority ≤ s.priority := by
  rcases List.mem_cons.1 hs with rfl | hs
  · exact le_rfl
  · exact List.rel_of_pairwise_cons hsorted hs

/-- Sources that are the same within every priority are the same, apart from their order. -/
theorem mem_iff_of_filter_priority_eq {rs ss : List (Registered ι)}
    (hsame : ∀ p : ℤ, rs.filter (fun r => r.priority = p) = ss.filter fun r => r.priority = p)
    (r : Registered ι) : r ∈ rs ↔ r ∈ ss := by
  have hboth : r ∈ rs.filter (fun s => s.priority = r.priority) ↔
      r ∈ ss.filter fun s => s.priority = r.priority := by rw [hsame]
  simpa [List.mem_filter] using hboth

/-- Sorted sources that are the same within every priority are the same.

The induction is on both lists.  The two first sources have the same priority, since each of them is
among the sources of the other list, and so they are the first ones of that priority. -/
theorem eq_of_filter_priority_eq {rs ss : List (Registered ι)} (hrs : Sorted rs) (hss : Sorted ss)
    (hsame : ∀ p : ℤ, rs.filter (fun r => r.priority = p) = ss.filter fun r => r.priority = p) :
    rs = ss := by
  have hmem := mem_iff_of_filter_priority_eq hsame
  induction rs generalizing ss with
  | nil =>
    symm
    exact List.eq_nil_iff_forall_not_mem.2 fun s hs => List.not_mem_nil ((hmem s).2 hs)
  | cons r rest ih =>
    cases ss with
    | nil => exact absurd ((hmem r).1 List.mem_cons_self) List.not_mem_nil
    | cons s others =>
      have hpriority : r.priority = s.priority :=
        le_antisymm (hrs.head_priority_le ((hmem s).2 List.mem_cons_self))
          (hss.head_priority_le ((hmem r).1 List.mem_cons_self))
      have hfirst : r = s := by
        have hheads := hsame s.priority
        rw [List.filter_cons, List.filter_cons, if_pos (decide_eq_true hpriority),
          if_pos (decide_eq_true rfl)] at hheads
        exact (List.cons.inj hheads).1
      subst hfirst
      have hrest : ∀ p : ℤ, rest.filter (fun s => s.priority = p) =
          others.filter fun s => s.priority = p := by
        intro p
        have hp := hsame p
        rw [List.filter_cons, List.filter_cons] at hp
        split at hp
        · exact (List.cons.inj hp).2
        · exact hp
      rw [ih (List.Pairwise.of_cons hrs) (List.Pairwise.of_cons hss) hrest
        (mem_iff_of_filter_priority_eq hrest)]

end View

/-! ## Adding sources -/

/-- A source that may be added: its name and priority, a handle to ask it by, and what it answers
when it is asked for the first time, nothing if it fails to. -/
structure Candidate (ι : Type u) where
  name : String
  priority : ℤ
  source : ι
  pulled : Option Snapshot

namespace Candidate

/-- The operation that adds a source. -/
def addition (c : Candidate ι) : Operation ι := .addSource c.name c.priority c.source c.pulled

/-- A source as it is registered; one that fails to answer starts out empty. -/
def registered (c : Candidate ι) : Registered ι := ⟨c.name, c.priority, c.source, c.pulled.getD ∅⟩

/-- Two orders of adding sources differ in nothing but ties when the sources of each priority are
the same, in the same order.  The priorities together have all sources, so that these are the same
too. -/
def SameAmongEquals (cs ds : List (Candidate ι)) : Prop :=
  ∀ p : ℤ, cs.filter (fun c => c.priority = p) = ds.filter fun c => c.priority = p

/-- The sources of a priority, among those that are registered. -/
theorem filter_map_registered (cs : List (Candidate ι)) (p : ℤ) :
    (cs.map registered).filter (fun r => r.priority = p) =
      (cs.filter fun c => c.priority = p).map registered := by
  rw [List.filter_map]
  rfl

/-- Sources that are added in two orders that keep equals as they are come to stand in one. -/
theorem SameAmongEquals.arrange_eq {cs ds : List (Candidate ι)} (h : SameAmongEquals cs ds) :
    View.arrange (cs.map registered) = View.arrange (ds.map registered) := by
  refine View.eq_of_filter_priority_eq (View.sorted_arrange _) (View.sorted_arrange _) fun p => ?_
  rw [View.filter_priority_arrange, View.filter_priority_arrange, filter_map_registered,
    filter_map_registered, h p]

end Candidate

namespace Manager

/-- Sources that are added to a manager without sources are inserted one after another. -/
theorem sources_run_additions {m : Manager ι ℕ} (hm : m.view.sources = [])
    (cs : List (Candidate ι)) :
    (m.run (cs.map Candidate.addition)).manager.view.sources =
      View.arrange (cs.map Candidate.registered) := by
  induction cs using List.reverseRecOn with
  | nil => exact hm
  | append_singleton cs c ih =>
    rw [List.map_append, List.map_append, manager_run_append]
    show View.sources (View.register _ c.registered).1 = View.arrange (_ ++ [c.registered])
    rw [View.arrange_concat, ← ih]
    exact View.remergeKeys_sources _ _

/-- Without registrations, a listener that is registered in between leaves a manager without
sources, so that those that are added then are all that there are. -/
theorem sources_after_additions {before between : List (Operation ι)}
    (hbefore : ∀ op ∈ before ++ between, op.registration? = none) (cs : List (Candidate ι)) :
    (after (before ++ .listen "*" :: (between ++ cs.map Candidate.addition))).view.sources =
      View.arrange (cs.map Candidate.registered) := by
  have hopening : ∀ op ∈ before ++ .listen "*" :: between, op.registration? = none := by
    intro op hop
    rcases List.mem_append.1 hop with hop | hop
    · exact hbefore op (List.mem_append_left between hop)
    · rcases List.mem_cons.1 hop with rfl | hop
      · rfl
      · exact hbefore op (List.mem_append_right before hop)
  have hrun := sources_run_additions (sources_run_eq_nil hopening) cs
  rwa [← manager_run_append, List.append_assoc] at hrun

/-- Let sources be added to a manager that has none yet, in two orders that differ in nothing but
ties, and let a listener for every key be registered before.  Both orders end in the same view: in
the same sources with the same snapshots, sorted by priority and among equals in the order of their
addition, and in the same merged values and owners.  And what the listener receives, though it may
not be the same, builds the same values. -/
theorem registration_order_irrelevant (before between : List (Operation ι))
    (hbefore : ∀ op ∈ before ++ between, op.registration? = none) {cs ds : List (Candidate ι)}
    (hsame : Candidate.SameAmongEquals cs ds) :
    let heardIn (es : List (Candidate ι)) := heard before "*" (between ++ es.map Candidate.addition)
    let viewOf (es : List (Candidate ι)) :=
      (after (before ++ .listen "*" :: (between ++ es.map Candidate.addition))).view
    ((viewOf cs).sources = (viewOf ds).sources ∧ (viewOf cs).merged = (viewOf ds).merged ∧
      (viewOf cs).values = (viewOf ds).values ∧
      ∀ key, (viewOf cs).get? key = (viewOf ds).get? key ∧
        (viewOf cs).owner? key = (viewOf ds).owner? key) ∧
    (View.Sorted (viewOf cs).sources ∧
      ∀ p : ℤ, (viewOf cs).sources.filter (fun r => r.priority = p) =
      (cs.filter fun c => c.priority = p).map Candidate.registered) ∧
    (heardIn cs).foldl Event.replay ∅ = (heardIn ds).foldl Event.replay ∅ ∧
    (heardIn cs).foldl Event.replay ∅ = (viewOf cs).values := by
  intro heardIn viewOf
  have hfirst : ∀ op ∈ before, op.registration? = none :=
    fun op hop => hbefore op (List.mem_append_left between hop)
  have hsources : ∀ es : List (Candidate ι),
      (viewOf es).sources = View.arrange (es.map Candidate.registered) :=
    sources_after_additions hbefore
  have hresolved : ∀ es : List (Candidate ι), (viewOf es).Resolved :=
    fun es => (orderly_run orderly_empty _).resolved
  have hview : viewOf cs = viewOf ds := by
    -- what is merged follows from the sources, whatever the way there
    refine (hresolved cs).eq_of_sources_eq (hresolved ds) ?_
    rw [hsources, hsources, hsame.arrange_eq]
  have hreplayed : ∀ es : List (Candidate ι),
      (heardIn es).foldl Event.replay ∅ = (viewOf es).values :=
    fun es => foldl_replay_heard hfirst _
  refine ⟨⟨by rw [hview], by rw [hview], by rw [hview], fun key => ⟨by rw [hview], by rw [hview]⟩⟩,
    ⟨?_, fun p => ?_⟩, ?_, hreplayed cs⟩
  · rw [hsources]
    exact View.sorted_arrange _
  · rw [hsources, View.filter_priority_arrange, Candidate.filter_map_registered]
  · rw [hreplayed, hreplayed, hview]

/-- Sources that have keys in common, and one that fails to answer. -/
def contested : List (Candidate Unit) :=
  [⟨"derived", 8, (), some (KeyMap.ofList [("a", .raw [1]), ("b", .raw [2])])⟩,
    ⟨"late", 8, (), some (KeyMap.ofList [("a", .raw [3]), ("c", .raw [4])])⟩,
    ⟨"file", 4, (), some (KeyMap.ofList [("b", .raw [5])])⟩, ⟨"absent", 2, (), none⟩]

/-- The same sources in another order. -/
def contestedAnew : List (Candidate Unit) :=
  [⟨"absent", 2, (), none⟩, ⟨"file", 4, (), some (KeyMap.ofList [("b", .raw [5])])⟩,
    ⟨"derived", 8, (), some (KeyMap.ofList [("a", .raw [1]), ("b", .raw [2])])⟩,
    ⟨"late", 8, (), some (KeyMap.ofList [("a", .raw [3]), ("c", .raw [4])])⟩]

/-- The two orders agree on the sources of one priority. -/
theorem sameAmongEquals_contested : Candidate.SameAmongEquals contested contestedAnew := by
  intro p
  unfold contested contestedAnew
  by_cases hfirst : p = 2
  · rw [hfirst]
    rfl
  · by_cases hsecond : p = 4
    · rw [hsecond]
      rfl
    · by_cases hthird : p = 8
      · rw [hthird]
        rfl
      · simp [Ne.symm hfirst, Ne.symm hsecond, Ne.symm hthird]

/-- In one of these orders a value is published and then replaced by that of another source, which
comes first in the other order.  What is built of it is the same. -/
theorem registration_order_contested :
    (∀ op ∈ [] ++ [Operation.listen (ι := Unit) "web"], op.registration? = none) ∧
    Candidate.SameAmongEquals contested contestedAnew ∧
    heard [] "*" ([.listen "web"] ++ contested.map Candidate.addition) =
      [⟨"derived", "a", .create (.raw [1])⟩, ⟨"derived", "b", .create (.raw [2])⟩,
        ⟨"late", "c", .create (.raw [4])⟩, ⟨"file", "b", .update (.raw [5])⟩] ∧
    heard [] "*" ([.listen "web"] ++ contestedAnew.map Candidate.addition) =
      [⟨"file", "b", .create (.raw [5])⟩, ⟨"derived", "a", .create (.raw [1])⟩,
        ⟨"late", "c", .create (.raw [4])⟩] ∧
    (heard [] "*" ([.listen "web"] ++ contested.map Candidate.addition)).foldl Event.replay ∅ =
      (heard [] "*" ([.listen "web"] ++ contestedAnew.map Candidate.addition)).foldl
        Event.replay ∅ := by
  have hnone : ∀ op ∈ [] ++ [Operation.listen (ι := Unit) "web"], op.registration? = none := by
    simp [Operation.registration?]
  exact ⟨hnone, sameAmongEquals_contested, by decide, by decide,
    (registration_order_irrelevant [] _ hnone sameAmongEquals_contested).2.2.1⟩

end Manager

end SidecarAgent.Config
