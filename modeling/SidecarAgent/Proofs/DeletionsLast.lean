import Mathlib.Data.List.Nodup
import SidecarAgent.Proofs.ListenerReplay
import SidecarAgent.Proofs.SourceEvents

/-!
# Where deletions stand

A difference ends with its deletions, and so does what is published when every key is merged again
(`deletionsLast_remerge`).  The difference that a polled source reports is entered event by event.
Its settings publish no deletions, but a deletion that it has may publish an update, by the next
source in line (`HasBetween.splits_enterAll_diff`).  So what a cycle of such a source delivers comes
in the order of its difference, and nothing but deletions comes after a deletion as long as no other
source has a key that is dropped (`deletions_last_or_taken_over`); otherwise something may
(`update_behind_deletion`).
-/

namespace SidecarAgent.Config

universe u

variable {ι : Type u}

/-- Nothing but deletions comes after a deletion. -/
def DeletionsLast (es : List Event) : Prop :=
  es.Pairwise fun d e => d.change = .delete → e.change = .delete

instance (es : List Event) : Decidable (DeletionsLast es) :=
  inferInstanceAs (Decidable (es.Pairwise fun d e => d.change = .delete → e.change = .delete))

/-- An event gives a key that is dropped to another source, which has it. -/
structure Event.TakenOver (others : List (Registered ι)) (current new : Snapshot) (e : Event) :
    Prop where
  dropped : (current.get? e.key).isSome ∧ new.get? e.key = none
  taken : ∃ s ∈ others, s.name = e.source ∧
    ∃ v, s.snapshot.get? e.key = some v ∧ e.change = .update v

/-- Where no deletion stands among the first events, what comes after a deletion is one of the rest.
-/
theorem pairwise_behind_deletions {P : Event → Prop} {first rest : List Event}
    (hfirst : ∀ e ∈ first, e.change ≠ .delete) (hrest : ∀ e ∈ rest, P e) :
    (first ++ rest).Pairwise fun d e => d.change = .delete → P e := by
  refine List.pairwise_append.2 ⟨?_, ?_, ?_⟩
  · exact List.pairwise_of_forall_mem_list fun d hd _ _ hdelete => absurd hdelete (hfirst d hd)
  · exact List.pairwise_of_forall_mem_list fun _ _ e he _ => hrest e he
  · exact fun d hd _ _ hdelete => absurd hdelete (hfirst d hd)

namespace View

/-! ## Merging every key -/

/-- Merging every key publishes deletions last. -/
theorem deletionsLast_remerge (v : View ι) : DeletionsLast v.remerge.2 := by
  have hchange : ∀ c e, attribute? v.merged (mergeAll v.sources) c = some e → e.change = c.2 := by
    intro c e he
    obtain ⟨o, -, rfl⟩ := Option.map_eq_some_iff.1 he
    rfl
  have hevents : v.remerge.2 =
      (settings v.values ((mergeAll v.sources).map Owned.value)).filterMap
          (attribute? v.merged (mergeAll v.sources)) ++
        (deletions v.values ((mergeAll v.sources).map Owned.value)).filterMap
          (attribute? v.merged (mergeAll v.sources)) := List.filterMap_append
  rw [hevents]
  refine pairwise_behind_deletions (fun e he => ?_) fun e he => ?_
  · obtain ⟨c, hc, hattribute⟩ := List.mem_filterMap.1 he
    rw [hchange c e hattribute]
    exact ne_delete_of_mem_settings hc
  · obtain ⟨c, hc, hattribute⟩ := List.mem_filterMap.1 he
    rw [hchange c e hattribute]
    exact eq_delete_of_mem_deletions hc

/-! ## Entering a difference -/

/-- A key that some source has is not deleted by its transition. -/
theorem ne_delete_of_transition? {key : String} {before : Option Owned}
    {sources : List (Registered ι)} {e : Event}
    (h : transition? key before (resolve sources key) = some e) {r : Registered ι}
    (hr : r ∈ sources) {v : Value} (hv : r.snapshot.get? key = some v) : e.change ≠ .delete := by
  cases hfound : resolve sources key with
  | none =>
    rw [resolve_eq_none_iff.1 hfound r hr] at hv
    cases hv
  | some o =>
    have hchange := change_transition? key before (resolve sources key)
    rw [h, hfound] at hchange
    exact Change.ne_delete_of_between? hchange.symm

/-- A source without a key leaves the key to the others. -/
theorem resolve_between_of_absent {before behind : List (Registered ι)} {r : Registered ι}
    {key : String} (habsent : r.snapshot.get? key = none) :
    resolve (before ++ r :: behind) key = resolve (before ++ behind) key := by
  rw [resolve_append, resolve_append, resolve_cons, owned?_eq_none_iff.2 habsent, Option.none_or]

/-- When a source drops a key, the key is deleted, or comes to be that of another source that has
it.  Since that source had the key before, the key is not created. -/
theorem cases_transition?_of_dropped {before behind : List (Registered ι)} {r : Registered ι}
    {new : Snapshot} {key : String} {e : Event} (hdropped : new.get? key = none)
    (h : transition? key (resolve (before ++ r :: behind) key)
      (resolve (before ++ { r with snapshot := new } :: behind) key) = some e) :
    e.change = .delete ∨ ∃ s ∈ before ++ behind, s.name = e.source ∧
      ∃ v, s.snapshot.get? key = some v ∧ e.change = .update v := by
  rw [resolve_between_of_absent (r := { r with snapshot := new }) hdropped] at h
  cases hafter : resolve (before ++ behind) key with
  | none =>
    have hchange := change_transition? key (resolve (before ++ r :: behind) key) none
    rw [hafter] at h
    rw [h] at hchange
    obtain ⟨v, -, hnone, -⟩ | ⟨u, v, -, hnone, -⟩ | ⟨u, -, -, hdelete⟩ :=
      Change.cases_of_between? hchange.symm
    · cases hnone
    · cases hnone
    · exact .inl hdelete
  | some a =>
    obtain ⟨first, s, last, hsplit, -, hs, hname⟩ := resolve_eq_some_iff.1 hafter
    have hother : s ∈ before ++ behind := by simp [hsplit]
    cases hbefore : resolve (before ++ r :: behind) key with
    | none =>
      have hold : s ∈ before ++ r :: behind :=
        ((List.sublist_cons_self r behind).append_left before).subset hother
      rw [resolve_eq_none_iff.1 hbefore s hold] at hs
      cases hs
    | some b =>
      rw [hbefore, hafter, transition?] at h
      split at h
      · cases h
      · cases h
        exact .inr ⟨s, hother, hname, a.value, hs, rfl⟩

namespace HasBetween

variable {v : View ι} {before behind : List (Registered ι)} {r : Registered ι}

/-- Where all names are different, the sources before and behind have other names. -/
theorem mem_others (h : v.HasBetween before r behind)
    (hnames : (v.sources.map Registered.name).Nodup) {s : Registered ι}
    (hs : s ∈ before ++ behind) :
    s ∈ v.sources.filter fun s => s.name ≠ r.name := by
  rw [h.sources_eq] at hnames ⊢
  rw [List.map_append, List.map_cons, List.nodup_middle, ← List.map_append, List.nodup_cons]
    at hnames
  refine List.mem_filter.2 ⟨?_, decide_eq_true fun hname => hnames.1 ?_⟩
  · exact ((List.sublist_cons_self r behind).append_left before).subset hs
  · rw [← hname]
    exact List.mem_map_of_mem hs

/-- Entering the difference between two snapshots publishes its settings first, and no deletions
with them.  After that every event is a deletion or gives a dropped key to another source. -/
theorem splits_enterAll_diff (h : v.HasBetween before r behind) (hv : v.Resolved)
    (current new : Snapshot) :
    ∃ first rest, (v.enterAll (diff r.name current new)).2 = first ++ rest ∧
      (∀ e ∈ first, e.change ≠ .delete) ∧
      ∀ e ∈ rest, e.change = .delete ∨ e.TakenOver (before ++ behind) current new := by
  have hkept : ∀ e ∈ diff r.name current new,
      ((diff r.name current new).foldl Event.replay r.snapshot).get? e.key = e.change.value? :=
    fun e he => get?_foldl_replay_of_mem (diff_keys_nodup r.name current new) he r.snapshot
  have hevents := h.events_enterAll hv (fun e he => source_of_mem_diff he)
    (diff_keys_nodup r.name current new)
  -- of what the source has in the end, only what it has under the keys of the difference matters
  generalize (diff r.name current new).foldl Event.replay r.snapshot = kept at hkept hevents
  have hdiff : diff r.name current new =
      (settings current new).map (fun c => ⟨r.name, c.1, c.2⟩) ++
        (deletions current new).map fun c => ⟨r.name, c.1, c.2⟩ := List.map_append
  rw [hdiff] at hkept
  refine ⟨_, _, by rw [hevents, hdiff, List.filterMap_append], fun e he => ?_, fun e he => ?_⟩
  · -- the source has the key in the end, so that some source has it
    obtain ⟨f, hf, htransition⟩ := List.mem_filterMap.1 he
    obtain ⟨c, hc, rfl⟩ := List.mem_map.1 hf
    obtain ⟨w, -, hchange⟩ := mem_settings_iff.1 hc
    have hvalue := hkept _ (List.mem_append_left _ hf)
    rw [Change.value?_of_between? hchange] at hvalue
    exact ne_delete_of_transition? htransition (r := { r with snapshot := kept }) (by simp) hvalue
  · -- the source does not have the key any more, but another one may have it
    obtain ⟨f, hf, htransition⟩ := List.mem_filterMap.1 he
    obtain ⟨c, hc, rfl⟩ := List.mem_map.1 hf
    obtain ⟨⟨u, hu⟩, hnew, hdelete⟩ := mem_deletions_iff.1 hc
    have hvalue := hkept _ (List.mem_append_right _ hf)
    have hkey := key_of_transition? htransition
    dsimp only at hkey hvalue htransition
    rw [hdelete] at hvalue
    rw [h.sources_eq] at htransition
    refine (cases_transition?_of_dropped hvalue htransition).imp_right fun htaken => ?_
    rw [← hkey] at hu hnew htaken
    exact ⟨⟨by rw [hu]; rfl, hnew⟩, htaken⟩

end HasBetween

end View

namespace Manager

/-- Replacing snapshots whole delivers deletions last, to every listener. -/
theorem deletionsLast_replaceAll (ops : List (Operation ι)) (pulled : List (String × Snapshot))
    {p : KeyPattern} {n : ℕ} (hlistens : (p, n) ∈ (after ops).listeners) :
    DeletionsLast (received n ((after ops).replaceAll pulled).deliveries) := by
  have hheard : received n ((after ops).replaceAll pulled).deliveries = _ :=
    received_dispatch_of_mem (numbered_after ops) hlistens _
  rw [hheard]
  exact (View.deletionsLast_remerge _).sublist List.filter_sublist

/-- In every state that a run reaches in which all sources have different names, and for every cycle
of one of them that brings it from a snapshot to another: what a listener receives is about keys of
the difference, in the order of the difference.  What it receives after a deletion is a deletion, or
an update by which another source takes over a key that is dropped.  If no other source has a key
that is dropped, deletions come last. -/
theorem deletions_last_or_taken_over (ops : List (Operation ι))
    (hnames : ((after ops).view.sources.map Registered.name).Nodup) {r : Registered ι}
    (hr : r ∈ (after ops).view.sources) (current new : Snapshot) {p : KeyPattern} {n : ℕ}
    (hlistens : (p, n) ∈ (after ops).listeners) :
    let others := (after ops).view.sources.filter fun s => s.name ≠ r.name
    let heard := received n ((after ops).applyAll (diff r.name current new)).deliveries
    (heard.map Event.key).Sublist ((diff r.name current new).map Event.key) ∧
    (heard.Pairwise fun d e =>
      d.change = .delete → e.change = .delete ∨ e.TakenOver others current new) ∧
    ((∀ s ∈ others, ∀ key, (current.get? key).isSome → new.get? key = none →
        s.snapshot.get? key = none) →
      DeletionsLast heard) := by
  intro others heard
  have hresolved : (after ops).view.Resolved := (orderly_run orderly_empty ops).resolved
  obtain ⟨before, behind, hbetween⟩ := View.exists_hasBetween hnames hr
  obtain ⟨first, rest, hsplit, hfirst, hrest⟩ :=
    hbetween.splits_enterAll_diff hresolved current new
  have hheard : heard.Sublist (first ++ rest) := by
    show (received n ((after ops).applyAll _).deliveries).Sublist _
    rw [deliveries_applyAll, received_dispatch_of_mem (numbered_after ops) hlistens, hsplit]
    exact List.filter_sublist
  have htaken : ∀ e ∈ rest, e.change = .delete ∨ e.TakenOver others current new := by
    intro e he
    refine (hrest e he).imp_right fun ⟨hdropped, s, hs, htakes⟩ => ?_
    exact ⟨hdropped, s, hbetween.mem_others hnames hs, htakes⟩
  refine ⟨?_, ?_, fun hnone => ?_⟩
  · have hpublished := hbetween.events_enterAll hresolved (fun e he => source_of_mem_diff he)
      (diff_keys_nodup r.name current new)
    rw [hsplit] at hpublished
    refine (hheard.map Event.key).trans ?_
    rw [hpublished]
    exact View.keys_transitions_sublist _ _ _
  · exact (pairwise_behind_deletions hfirst htaken).sublist hheard
  · refine (pairwise_behind_deletions hfirst fun e he => ?_).sublist hheard
    rcases htaken e he with hdelete | ⟨hdropped, s, hs, -, v, hv, -⟩
    · exact hdelete
    · rw [hnone s hs e.key hdropped.1 hdropped.2] at hv
      cases hv

/-- A polled source, and behind it a source that has one of its keys. -/
def backed : List (Operation Unit) :=
  [.listen "*", .addSource "polled" 1 () (some (KeyMap.ofList [("a", .raw [1]), ("b", .raw [2])])),
    .addSource "fixed" 2 () (some (KeyMap.ofList [("b", .raw [3])]))]

/-- When the first of these sources drops the key that only it has, and comes to have another one
besides, that is created before the deletion. -/
theorem deletion_behind_creation :
    let r : Registered Unit :=
      ⟨"polled", 1, (), KeyMap.ofList [("a", .raw [1]), ("b", .raw [2])]⟩
    let new : Snapshot := KeyMap.ofList [("b", .raw [2]), ("c", .raw [4])]
    let heard := received 0 ((after backed).applyAll (diff r.name r.snapshot new)).deliveries
    ((after backed).view.sources.map Registered.name).Nodup ∧ r ∈ (after backed).view.sources ∧
    (KeyPattern.parse "*", 0) ∈ (after backed).listeners ∧
    heard = [⟨"polled", "c", .create (.raw [4])⟩, ⟨"polled", "a", .delete⟩] ∧
    DeletionsLast heard := by
  intro r new heard
  have hnames : ((after backed).view.sources.map Registered.name).Nodup := by decide
  have hr : r ∈ (after backed).view.sources := List.mem_cons_self
  have hlistens : (KeyPattern.parse "*", 0) ∈ (after backed).listeners := List.mem_cons_self
  have hnone : ∀ s ∈ (after backed).view.sources.filter (fun s => s.name ≠ r.name), ∀ key,
      (r.snapshot.get? key).isSome → new.get? key = none → s.snapshot.get? key = none := by
    intro s hs key hhad hdropped
    have hs : s = ⟨"fixed", 2, (), KeyMap.ofList [("b", .raw [3])]⟩ := List.mem_singleton.1 hs
    -- the other source has one key, which is not dropped
    rw [hs]
    by_cases hkey : key = "b"
    · rw [hkey] at hdropped
      exact absurd hdropped (by decide)
    · show ((∅ : Snapshot).insert "b" (.raw [3])).get? key = none
      rw [KeyMap.get?_insert, if_neg hkey, KeyMap.get?_emptyCollection]
  exact ⟨hnames, hr, hlistens, by decide,
    (deletions_last_or_taken_over backed hnames hr r.snapshot new hlistens).2.2 hnone⟩

/-- When the first of these sources drops both keys, the second takes over one of them, after the
other one is deleted. -/
theorem update_behind_deletion :
    let r : Registered Unit :=
      ⟨"polled", 1, (), KeyMap.ofList [("a", .raw [1]), ("b", .raw [2])]⟩
    let heard := received 0 ((after backed).applyAll (diff r.name r.snapshot ∅)).deliveries
    ((after backed).view.sources.map Registered.name).Nodup ∧
    (after backed).view.sources.head?.map Registered.name = some r.name ∧
    (after backed).view.sources.head?.map Registered.snapshot = some r.snapshot ∧
    heard = [⟨"polled", "a", .delete⟩, ⟨"fixed", "b", .update (.raw [3])⟩] ∧
    ¬ DeletionsLast heard := by
  decide

end Manager

end SidecarAgent.Config
