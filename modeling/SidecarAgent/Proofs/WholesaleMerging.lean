import Mathlib.Data.List.Nodup
import Mathlib.Data.List.Perm.Basic
import SidecarAgent.Proofs.ListenerReplay
import SidecarAgent.Proofs.SourceEvents

/-!
# Merging change by change and all at once

A source's new snapshot can reach a view in two ways: as the difference to the old one, entered
event by event, or whole, after which every key is merged again.  Where all sources have different
names the two ways end in the same view (`HasBetween.view_enterAll_diff`) and publish the same
events, though not in the same order (`HasBetween.events_enterAll_diff_perm`).
-/

namespace SidecarAgent.Config

universe u v

variable {ι : Type u} {lis : Type v}

namespace View

/-! ## The events of merging every key -/

/-- The change of a key's value is attributed as the transition of the key is. -/
theorem attribute?_of_between? {before after : KeyMap Owned} {key : String} {c : Change}
    (h : Change.between? ((before.get? key).map Owned.value) ((after.get? key).map Owned.value) =
      some c) :
    attribute? before after (key, c) = transition? key (before.get? key) (after.get? key) := by
  rcases Change.cases_of_between? h with
    ⟨v, hbefore, hafter, rfl⟩ | ⟨u, v, hbefore, hafter, hne, rfl⟩ | ⟨u, hbefore, hafter, rfl⟩
  · obtain ⟨a, ha, rfl⟩ := Option.map_eq_some_iff.1 hafter
    rw [Option.map_eq_none_iff.1 hbefore, ha]
    simp [attribute?, transition?, ha]
  · obtain ⟨b, hb, rfl⟩ := Option.map_eq_some_iff.1 hbefore
    obtain ⟨a, ha, rfl⟩ := Option.map_eq_some_iff.1 hafter
    rw [hb, ha]
    simp [attribute?, transition?, ha, hne]
  · obtain ⟨b, hb, -⟩ := Option.map_eq_some_iff.1 hbefore
    rw [hb, Option.map_eq_none_iff.1 hafter]
    simp [attribute?, transition?, hb]

/-- Merging every key publishes the transitions of the single keys. -/
theorem mem_fullMerging_events_iff (v : View ι) (e : Event) :
    e ∈ v.fullMerging.events ↔
      transition? e.key (v.merged.get? e.key) (resolve v.sources e.key) = some e := by
  have hevents : e ∈ v.fullMerging.events ↔
      ∃ c ∈ changes v.values ((mergeAll v.sources).map Owned.value),
        attribute? v.merged (mergeAll v.sources) c = some e := List.mem_filterMap
  rw [hevents, ← get?_mergeAll]
  constructor
  · rintro ⟨⟨key, c⟩, hc, he⟩
    rw [mem_changes_iff, get?_values, KeyMap.get?_map] at hc
    rw [attribute?_of_between? hc] at he
    rwa [key_of_transition? he]
  · intro he
    have hchange := change_transition? e.key (v.merged.get? e.key) ((mergeAll v.sources).get? e.key)
    rw [he, Option.map_some] at hchange
    refine ⟨(e.key, e.change), ?_, ?_⟩
    · rw [mem_changes_iff, get?_values, KeyMap.get?_map]
      exact hchange.symm
    · rw [attribute?_of_between? hchange.symm, he]

/-! ## The two ways -/

namespace HasBetween

variable {v : View ι} {before behind : List (Registered ι)} {r : Registered ι}

/-- Entering the difference to a new snapshot brings the source to it. -/
theorem enterAll_diff (h : v.HasBetween before r behind) (hv : v.Resolved) (new : Snapshot) :
    (v.enterAll (diff r.name r.snapshot new)).1.HasBetween before { r with snapshot := new }
      behind ∧ (v.enterAll (diff r.name r.snapshot new)).1.Resolved := by
  have hsource : ∀ e ∈ diff r.name r.snapshot new, e.source = r.name :=
    fun e he => source_of_mem_diff he
  have hentered := h.enterAll hv hsource
  rwa [(leads_diff r.name r.snapshot new).foldl_replay_eq] at hentered

/-- Replacing the snapshot of the source leaves the source where it is. -/
theorem replaceSnapshots (h : v.HasBetween before r behind) (new : Snapshot) :
    (v.replaceSnapshots [(r.name, new)]).HasBetween before { r with snapshot := new } behind :=
  h.modifySnapshot fun _ => new

/-- The two ways end in the same view. -/
theorem view_enterAll_diff (h : v.HasBetween before r behind) (hv : v.Resolved) (new : Snapshot) :
    (v.enterAll (diff r.name r.snapshot new)).1 =
      (v.replaceSnapshots [(r.name, new)]).remerge.1 := by
  obtain ⟨hentered, hresolved⟩ := h.enterAll_diff hv new
  refine hresolved.eq_of_sources_eq (resolved_remerge _) ?_
  rw [hentered.sources_eq]
  exact (h.replaceSnapshots new).sources_eq.symm

/-- Entering the difference to a new snapshot publishes the transitions of the single keys. -/
theorem mem_events_enterAll_diff_iff (h : v.HasBetween before r behind) (hv : v.Resolved)
    (new : Snapshot) (e : Event) :
    e ∈ (v.enterAll (diff r.name r.snapshot new)).2 ↔
      transition? e.key (resolve v.sources e.key)
        (resolve (before ++ { r with snapshot := new } :: behind) e.key) = some e := by
  rw [h.events_enterAll hv (fun e he => source_of_mem_diff he) (diff_keys_nodup _ _ _),
    (leads_diff r.name r.snapshot new).foldl_replay_eq, List.mem_filterMap]
  constructor
  · rintro ⟨f, -, hf⟩
    rwa [key_of_transition? hf]
  · intro he
    -- a key that the difference leaves out has no transition
    by_cases hkey : e.key ∈ (diff r.name r.snapshot new).map Event.key
    · obtain ⟨f, hf, hfe⟩ := List.mem_map.1 hkey
      refine ⟨f, hf, ?_⟩
      rw [hfe]
      exact he
    · have hsame := resolve_between_congr before behind r (get?_eq_of_not_mem_diff hkey)
      rw [h.sources_eq, ← hsame, transition?_self] at he
      cases he

/-- The two ways publish the same events, up to their order. -/
theorem events_enterAll_diff_perm (h : v.HasBetween before r behind) (hv : v.Resolved)
    (new : Snapshot) :
    (v.enterAll (diff r.name r.snapshot new)).2.Perm
      (v.replaceSnapshots [(r.name, new)]).remerge.2 := by
  have hentered : (v.enterAll (diff r.name r.snapshot new)).2.Nodup :=
    (h.events_enterAll_keys_nodup hv (fun e he => source_of_mem_diff he)
      (diff_keys_nodup _ _ _)).of_map Event.key
  have hmerged : (v.replaceSnapshots [(r.name, new)]).remerge.2.Nodup :=
    (sound_fullMerging (v.replaceSnapshots [(r.name, new)])).distinct.of_map Event.key
  refine (List.perm_ext_iff_of_nodup hentered hmerged).2 fun e => ?_
  have hfull := mem_fullMerging_events_iff (v.replaceSnapshots [(r.name, new)]) e
  rw [(h.replaceSnapshots new).sources_eq] at hfull
  have hbefore : (v.replaceSnapshots [(r.name, new)]).merged.get? e.key = resolve v.sources e.key :=
    hv e.key
  rw [hbefore] at hfull
  exact (h.mem_events_enterAll_diff_iff hv new e).trans hfull.symm

end HasBetween

end View

namespace Manager

/-- In every state that a run reaches, if all sources have different names, applying the difference
between what a source has and a new snapshot ends in the same manager as replacing what it has by
the new snapshot and merging every key again: in the same sources and snapshots, the same merged
values and the same owners.  The same events are published, at most one for a key, and so the same
are delivered, in either case up to their order. -/
theorem applyAll_diff_eq_replaceAll (ops : List (Operation ι))
    (hnames : ((after ops).view.sources.map Registered.name).Nodup) {r : Registered ι}
    (hr : r ∈ (after ops).view.sources) (new : Snapshot) :
    let m := after ops
    let reported := diff r.name r.snapshot new
    let entered := m.view.enterAll reported
    let replaced := (m.view.replaceSnapshots [(r.name, new)]).remerge
    ((∃ before behind, m.view.sources = before ++ r :: behind ∧
        entered.1.sources = before ++ { r with snapshot := new } :: behind) ∧
      entered.1.sources = replaced.1.sources ∧ entered.1.merged = replaced.1.merged) ∧
    (entered.2.Perm replaced.2 ∧ (replaced.2.map Event.key).Nodup) ∧
    (m.applyAll reported).manager = (m.replaceAll [(r.name, new)]).manager ∧
    (m.applyAll reported).deliveries = m.dispatch entered.2 ∧
    (m.replaceAll [(r.name, new)]).deliveries = m.dispatch replaced.2 ∧
    (m.applyAll reported).deliveries.Perm (m.replaceAll [(r.name, new)]).deliveries := by
  intro m reported entered replaced
  have hresolved : m.view.Resolved := (orderly_run orderly_empty ops).resolved
  obtain ⟨before, behind, hbetween⟩ := View.exists_hasBetween hnames hr
  have hview : entered.1 = replaced.1 := hbetween.view_enterAll_diff hresolved new
  have hperm : entered.2.Perm replaced.2 := hbetween.events_enterAll_diff_perm hresolved new
  have hdeliveries : (m.applyAll reported).deliveries = m.dispatch entered.2 :=
    m.deliveries_applyAll reported
  refine ⟨⟨⟨before, behind, hbetween.sources_eq, ?_⟩, ?_, ?_⟩, ⟨hperm, ?_⟩, ?_, hdeliveries,
    rfl, ?_⟩
  · exact (hbetween.enterAll_diff hresolved new).1.sources_eq
  · rw [hview]
  · rw [hview]
  · exact (View.sound_fullMerging (m.view.replaceSnapshots [(r.name, new)])).distinct
  · rw [manager_applyAll]
    show Manager.mk entered.1 m.listeners = Manager.mk replaced.1 m.listeners
    rw [hview]
  · rw [hdeliveries]
    exact hperm.flatMap_right _

/-- Two sources, of which the second has the same keys as the first, with another value for one. -/
def overlapping : List (Operation Unit) :=
  [.addSource "first" 1 () (some (KeyMap.ofList [("a", .raw [1]), ("b", .raw [2])])),
    .addSource "second" 2 () (some (KeyMap.ofList [("a", .raw [3]), ("b", .raw [2])]))]

/-- When the first of these sources comes to have another key instead, one key falls to the second
source with its other value, and the other one without a change. -/
theorem applyAll_diff_overlapping :
    let r : Registered Unit :=
      ⟨"first", 1, (), KeyMap.ofList [("a", .raw [1]), ("b", .raw [2])]⟩
    let new : Snapshot := KeyMap.ofList [("c", .raw [4])]
    ((after overlapping).view.sources.map Registered.name).Nodup ∧
    r ∈ (after overlapping).view.sources ∧
    ((after overlapping).view.enterAll (diff r.name r.snapshot new)).2 =
      [⟨"first", "c", .create (.raw [4])⟩, ⟨"second", "a", .update (.raw [3])⟩] ∧
    ((after overlapping).view.enterAll (diff r.name r.snapshot new)).2.Perm
      ((after overlapping).view.replaceSnapshots [(r.name, new)]).remerge.2 := by
  intro r new
  have hnames : ((after overlapping).view.sources.map Registered.name).Nodup := by decide
  have hr : r ∈ (after overlapping).view.sources := List.mem_cons_self
  exact ⟨hnames, hr, by decide, (applyAll_diff_eq_replaceAll overlapping hnames hr new).2.1.1⟩

end Manager

end SidecarAgent.Config
