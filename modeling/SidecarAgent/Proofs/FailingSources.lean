import Mathlib.Data.Finset.Basic
import SidecarAgent.Proofs.RefreshedSources

/-!
# Refreshes in which sources fail

A source that fails is left out of a refresh.  This is no different from a source that brings what
is retained of it anyway: a polled source then reports nothing (`changesIn_fail`), and any other
source has its snapshot replaced by itself (`leaves_fail`).  So a refresh in which some sources fail
ends like one in which they bring what is retained of them, and delivers the same on the way
(`failing_as_repeating`).
-/

namespace SidecarAgent.Config

open Discovery (DiscoveryError)

universe u v

variable {ι : Type u} {lis : Type v}

namespace Inquiry

/-- The source fails instead. -/
def fail (error : DiscoveryError) : Inquiry → Inquiry
  | fixed _ => fixed none
  | polled current _ => polled current (.error error)

/-- The source answers with a snapshot instead. -/
def bring (s : Snapshot) : Inquiry → Inquiry
  | fixed _ => fixed (some s)
  | polled current _ => polled current (.ok s)

/-- The source has a snapshot for its last one, if it keeps a record of it. -/
def Agrees (s : Snapshot) : Inquiry → Prop
  | fixed _ => True
  | polled current _ => current = s

/-- A source reports as little when it fails as when it brings what it had. -/
theorem changesIn_fail {r : Registered ι} {inquiry : Inquiry} (hagrees : inquiry.Agrees r.snapshot)
    (error : DiscoveryError) :
    Manager.changesIn ((inquiry.fail error).answer r) =
      Manager.changesIn ((inquiry.bring r.snapshot).answer r) := by
  cases inquiry with
  | fixed returned => rfl
  | polled current pulled =>
    have hcurrent : current = r.snapshot := hagrees
    have hnothing : diff r.name r.snapshot r.snapshot = [] := by
      unfold diff
      rw [changes_self]
      rfl
    show [] = diff r.name current r.snapshot
    rw [hcurrent, hnothing]

end Inquiry

namespace Manager

/-- The sources at some places fail, and the others answer as they do. -/
def failing (failed : Finset ℕ) (error : ℕ → DiscoveryError) (inquiry : ℕ → Inquiry) (n : ℕ) :
    Inquiry :=
  if n ∈ failed then (inquiry n).fail (error n) else inquiry n

/-- The sources at some places bring what is retained of them, and the others answer as they do. -/
def repeating (m : Manager ι lis) (failed : Finset ℕ) (inquiry : ℕ → Inquiry) (n : ℕ) : Inquiry :=
  match m.view.sources[n]? with
  | some r => if n ∈ failed then (inquiry n).bring r.snapshot else inquiry n
  | none => inquiry n

variable {m : Manager ι lis} {failed : Finset ℕ} {inquiry : ℕ → Inquiry}

/-- How a source answers that may have to bring what is retained of it. -/
theorem repeating_eq (failed : Finset ℕ) (inquiry : ℕ → Inquiry) {n : ℕ} {r : Registered ι}
    (hr : m.view.sources[n]? = some r) :
    m.repeating failed inquiry n =
      if n ∈ failed then (inquiry n).bring r.snapshot else inquiry n := by
  unfold repeating
  rw [hr]

/-- What is reported depends on the changes in the answers only. -/
theorem reported_congr {first second : ℕ → Inquiry}
    (h : ∀ n r, m.view.sources[n]? = some r →
      changesIn ((first n).answer r) = changesIn ((second n).answer r)) :
    reported (m.answers first) = reported (m.answers second) := by
  have hchanges : (m.answers first).map (fun a => changesIn a.2) =
      (m.answers second).map fun a => changesIn a.2 := by
    unfold answers
    refine List.ext_getElem? fun n => ?_
    rw [List.getElem?_map, List.getElem?_map, List.getElem?_mapIdx, List.getElem?_mapIdx]
    cases hr : m.view.sources[n]? with
    | none => rfl
    | some r => exact congrArg some (h n r hr)
  unfold reported
  rw [List.flatMap_def, List.flatMap_def, hchanges]

/-- As much is reported when some sources fail as when they bring what is retained of them. -/
theorem reported_failing
    (hagrees : ∀ n r, m.view.sources[n]? = some r → (inquiry n).Agrees r.snapshot)
    (error : ℕ → DiscoveryError) :
    reported (m.answers (failing failed error inquiry)) =
      reported (m.answers (m.repeating failed inquiry)) := by
  refine reported_congr fun n r hr => ?_
  rw [repeating_eq failed inquiry hr]
  unfold failing
  by_cases hn : n ∈ failed
  · rw [if_pos hn, if_pos hn]
    exact Inquiry.changesIn_fail (hagrees n r hr) (error n)
  · rw [if_neg hn, if_neg hn]

/-- A source with a name of its own is left the same when some sources fail as when they bring what
is retained of them. -/
theorem leaves_failing
    (hagrees : ∀ n r, m.view.sources[n]? = some r → (inquiry n).Agrees r.snapshot)
    (error : ℕ → DiscoveryError) {n : ℕ} {r : Registered ι} (honly : OnlyOfName m.view.names n)
    (hr : m.view.sources[n]? = some r) :
    leaves (m.answers (failing failed error inquiry)) r =
      leaves (m.answers (m.repeating failed inquiry)) r := by
  have hfailing : failing failed error inquiry n =
      if n ∈ failed then (inquiry n).fail (error n) else inquiry n := rfl
  have hrepeating := repeating_eq failed inquiry hr
  by_cases hn : n ∈ failed
  · rw [if_pos hn] at hfailing hrepeating
    cases hinquiry : inquiry n with
    | fixed returned =>
      -- what replaces the snapshot is the snapshot itself
      rw [hinquiry] at hfailing hrepeating
      rw [leaves_of_fixed honly hr hfailing, leaves_of_fixed honly hr hrepeating]
      rfl
    | polled current pulled =>
      -- nothing is returned whole, and the same is reported under the name
      rw [hinquiry] at hfailing hrepeating
      unfold leaves
      rw [lastUnder_returned _ honly hr, lastUnder_returned _ honly hr, hfailing, hrepeating,
        reported_failing hagrees error]
      rfl
  · rw [if_neg hn] at hfailing hrepeating
    unfold leaves
    rw [lastUnder_returned _ honly hr, lastUnder_returned _ honly hr, hfailing, hrepeating,
      reported_failing hagrees error]

/-- Two refreshes that report the same, and leave the same to the first source of every name, do the
same. -/
theorem inquire_congr {first second : ℕ → Inquiry}
    (hreported : reported (m.answers first) = reported (m.answers second))
    (hleaves : ∀ n r, m.view.sources[n]? = some r → FirstOfName m.view.names n →
      leaves (m.answers first) r = leaves (m.answers second) r) :
    (m.inquire first).manager = (m.inquire second).manager ∧
      (m.inquire first).deliveries = (m.inquire second).deliveries := by
  have hsources : (m.inquire first).manager.view.sources =
      (m.inquire second).manager.view.sources := by
    refine List.ext_getElem? fun n => ?_
    rw [getElem?_inquire, getElem?_inquire]
    cases hr : m.view.sources[n]? with
    | none => rfl
    | some r =>
      by_cases hfirst : FirstOfName m.view.names n
      · rw [Option.map_some, Option.map_some, if_pos hfirst, if_pos hfirst, hleaves n r hr hfirst]
      · rw [Option.map_some, Option.map_some, if_neg hfirst, if_neg hfirst]
  -- before they are merged, the views have the same sources and the same entries
  have hreplaced :
      (m.view.enterAll (reported (m.answers second))).1.replaceSnapshots
          (returned (m.answers first)) =
        (m.view.enterAll (reported (m.answers second))).1.replaceSnapshots
          (returned (m.answers second)) := by
    rw [manager_inquire, manager_inquire, hreported] at hsources
    have hmerged := (View.merged_replaceSnapshots _ (returned (m.answers first))).trans
      (View.merged_replaceSnapshots (m.view.enterAll (reported (m.answers second))).1
        (returned (m.answers second))).symm
    exact congrArg₂ View.mk hsources hmerged
  constructor
  · rw [manager_inquire, manager_inquire, hreported, hreplaced]
  · rw [deliveries_inquire, deliveries_inquire, hreported, hreplaced]

/-- In every state that a run reaches in which all sources have different names and the polled ones
have what is retained of them, and for all sources that are made to fail: the refresh ends in the
same state and delivers the same events in the same order as the refresh in which each of these
sources brings what is retained of it, and the others answer as they do. -/
theorem failing_as_repeating (ops : List (Operation ι)) (failed : Finset ℕ)
    (error : ℕ → DiscoveryError) (inquiry : ℕ → Inquiry)
    (hnames : (after ops).view.names.Nodup)
    (hagrees : ∀ n r, (after ops).view.sources[n]? = some r → (inquiry n).Agrees r.snapshot) :
    let despite := (after ops).inquire (failing failed error inquiry)
    let repeated := (after ops).inquire ((after ops).repeating failed inquiry)
    despite.manager = repeated.manager ∧ despite.deliveries = repeated.deliveries :=
  inquire_congr (reported_failing hagrees error) fun _ _ hr _ =>
    leaves_failing hagrees error (View.onlyOfName_of_nodup hnames hr) hr

/-- A polled source before two others, of which one has the same key. -/
def polledBeforeTwo : List (Operation Unit) :=
  [.listen "*", .addSource "polled" 1 () (some (KeyMap.ofList [("a", .raw [1]), ("b", .raw [2])])),
    .addSource "fixed" 2 () (some (KeyMap.ofList [("b", .raw [3]), ("c", .raw [4])])),
    .addSource "last" 3 () (some (KeyMap.ofList [("c", .raw [5])]))]

/-- When the second of these sources fails, the polled source drops a key that the second has, and
the third brings another key, the second takes over, as if it had answered. -/
theorem taken_over_by_failing :
    let inquiry : ℕ → Inquiry := fun n =>
      if n = 0 then .polled (KeyMap.ofList [("a", .raw [1]), ("b", .raw [2])])
        (.ok (KeyMap.ofList [("a", .raw [1])]))
      else .fixed (some (KeyMap.ofList [("d", .raw [6])]))
    let despite := (after polledBeforeTwo).inquire (failing {1} (fun _ => .subsetTags) inquiry)
    let repeated := (after polledBeforeTwo).inquire ((after polledBeforeTwo).repeating {1} inquiry)
    (after polledBeforeTwo).view.names.Nodup ∧
    (∀ n r, (after polledBeforeTwo).view.sources[n]? = some r → (inquiry n).Agrees r.snapshot) ∧
    (despite.manager = repeated.manager ∧ despite.deliveries = repeated.deliveries) ∧
    despite.deliveries =
      [(0, ⟨"fixed", "b", .update (.raw [3])⟩), (0, ⟨"last", "d", .create (.raw [6])⟩)] := by
  intro inquiry despite repeated
  have hnames : (after polledBeforeTwo).view.names.Nodup := by decide
  have hagrees : ∀ n r, (after polledBeforeTwo).view.sources[n]? = some r →
      (inquiry n).Agrees r.snapshot := by
    intro n r hr
    cases n with
    | zero =>
      obtain rfl := Option.some.inj hr
      rfl
    | succ n => trivial
  exact ⟨hnames, hagrees, failing_as_repeating polledBeforeTwo {1} _ inquiry hnames hagrees,
    by decide⟩

end Manager

end SidecarAgent.Config
