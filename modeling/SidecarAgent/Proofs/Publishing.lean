import SidecarAgent.Agent.Startup
import SidecarAgent.Proofs.ListenerReplay

/-!
# Caches that follow the merged values

The caches listen for every key.  A `Follower` is what both have in common: an event changes the
entry of its key only, in a way that depends on the new value and on the entry before.  Such a cache
enters the merged values one after another (`look_follow_passes`), although it is told of changes
only: what does not change is entered already (`Settled`).  The caches that an agent starts with are
caches of this kind (`addFirst_eq_follow_heard`).
-/

namespace SidecarAgent.Config

open Agent (deliver)
open Telemetry (Note)

universe u

/-! ## The first listener of an agent -/

/-- The listener that an agent starts with gets every event. -/
theorem map_snd_dispatch_listening {ι : Type} (es : List Event) :
    ((Agent.listening (ι := ι)).dispatch es).map Prod.snd = es := by
  induction es with
  | nil => rfl
  | cons e rest ih =>
    rw [← List.singleton_append, Manager.dispatch_append, List.map_append, ih]
    rfl

/-! ## Followers -/

/-- A cache that follows events: how it reacts to one, the entries that it has, and how the entry of
a key comes from the entry before and the key's new value.  Entering a value twice is entering it
once. -/
structure Follower (κ β : Type) where
  onEvent : κ → Event → κ × List Note
  look : κ → String → Option β
  enter : String → Option β → Option Value → Option β
  look_onEvent : ∀ c e k, look (onEvent c e).1 k =
    if k = e.key then enter k (look c k) e.change.value? else look c k
  enter_enter : ∀ k entry value, enter k (enter k entry value) value = enter k entry value

namespace Follower

variable {κ β : Type} (f : Follower κ β)

/-- The cache after some events. -/
def follow (c : κ) (es : List Event) : κ := (deliver f.onEvent c es).1

/-- Events are followed one after another. -/
theorem follow_cons (c : κ) (e : Event) (es : List Event) :
    f.follow c (e :: es) = f.follow (f.onEvent c e).1 es := rfl

/-- What comes later is followed later. -/
theorem follow_append (c : κ) (es later : List Event) :
    f.follow c (es ++ later) = f.follow (f.follow c es) later := by
  induction es generalizing c with
  | nil => rfl
  | cons e es ih => exact ih (f.onEvent c e).1

/-- A key that no event is about keeps its entry. -/
theorem look_follow_of_not_mem {es : List Event} {k : String} (hk : k ∉ es.map Event.key) (c : κ) :
    f.look (f.follow c es) k = f.look c k := by
  induction es generalizing c with
  | nil => rfl
  | cons e es ih =>
    rw [List.map_cons, List.mem_cons, not_or] at hk
    rw [follow_cons, ih hk.2, f.look_onEvent, if_neg hk.1]

/-- Among events on different keys, each enters its value. -/
theorem look_follow_of_mem {es : List Event} (hdistinct : (es.map Event.key).Nodup) {e : Event}
    (he : e ∈ es) (c : κ) :
    f.look (f.follow c es) e.key = f.enter e.key (f.look c e.key) e.change.value? := by
  induction es generalizing c with
  | nil => cases he
  | cons first es ih =>
    rw [List.map_cons, List.nodup_cons] at hdistinct
    rw [follow_cons]
    rcases List.mem_cons.1 he with rfl | he
    · rw [f.look_follow_of_not_mem hdistinct.1, f.look_onEvent, if_pos rfl]
    · have hother : e.key ≠ first.key := fun heq =>
        hdistinct.1 (heq ▸ List.mem_map_of_mem he)
      rw [ih hdistinct.2 he, f.look_onEvent, if_neg hother]

/-! ## Mergings -/

/-- A cache is settled on a snapshot when entering its values again would change nothing. -/
def Settled (c : κ) (s : Snapshot) : Prop := ∀ k, f.enter k (f.look c k) (s.get? k) = f.look c k

/-- Following events that lead from one snapshot to another, each of them on a key of its own,
enters every value of the other one.  Keys without an event have the value that they had, on which
the cache is settled. -/
theorem look_follow_leads {s t : Snapshot} {es : List Event} (hleads : Leads s es t)
    (hdistinct : (es.map Event.key).Nodup) {c : κ} (hc : f.Settled c s) (k : String) :
    f.look (f.follow c es) k = f.enter k (f.look c k) (t.get? k) := by
  rw [← hleads.foldl_replay_eq]
  -- where no event tells the cache of a value, the value is entered already
  by_cases hk : k ∈ es.map Event.key
  · obtain ⟨e, he, rfl⟩ := List.mem_map.1 hk
    rw [f.look_follow_of_mem hdistinct he, get?_foldl_replay_of_mem hdistinct he]
  · rw [f.look_follow_of_not_mem hk, get?_foldl_replay_of_not_mem hk, hc k]

/-- Following a sound merging enters every value that there is after it. -/
theorem look_follow_merging {m : Merging} (hm : m.Sound) {c : κ} (hc : f.Settled c m.oldValues)
    (k : String) :
    f.look (f.follow c m.events) k = f.enter k (f.look c k) (m.newValues.get? k) :=
  f.look_follow_leads hm.leads hm.distinct hc k

/-- A cache that has followed a sound merging is settled on what there is after it. -/
theorem settled_follow_merging {m : Merging} (hm : m.Sound) {c : κ} (hc : f.Settled c m.oldValues) :
    f.Settled (f.follow c m.events) m.newValues := by
  intro k
  rw [f.look_follow_merging hm hc, f.enter_enter]

variable {ι : Type u} {first last : KeyMap Owned} {ms : List Merging}

/-- A cache that has followed mergings is settled on the values that they end with. -/
theorem settled_follow_passes (h : Passes ι first ms last) {c : κ}
    (hc : f.Settled c (first.map Owned.value)) :
    f.Settled (f.follow c (ms.flatMap Merging.events)) (last.map Owned.value) := by
  induction h generalizing c with
  | nil => exact hc
  | @cons m ms last hmerges _ ih =>
    rw [List.flatMap_cons, follow_append]
    exact ih (f.settled_follow_merging hmerges.sound hc)

/-- Following mergings enters the values after each of them, one after another. -/
theorem look_follow_passes (h : Passes ι first ms last) {c : κ}
    (hc : f.Settled c (first.map Owned.value)) (k : String) :
    f.look (f.follow c (ms.flatMap Merging.events)) k =
      ((ms.map Merging.newValues).map fun s => s.get? k).foldl (f.enter k) (f.look c k) := by
  induction h generalizing c with
  | nil => rfl
  | @cons m ms last hmerges _ ih =>
    have hnext := f.settled_follow_merging hmerges.sound hc
    rw [List.flatMap_cons, follow_append, ih hnext, f.look_follow_merging hmerges.sound hc]
    rfl

/-! ## Runs -/

variable (before later : List (Operation ι))

/-- A cache that follows a run is settled on the current merged values. -/
theorem settled_follow_heard {c : κ} (hc : f.Settled c (Manager.after before).view.values) :
    f.Settled (f.follow c (Manager.heard before "*" later))
      (Manager.after (before ++ .listen "*" :: later)).view.values := by
  rw [Manager.heard_star]
  exact f.settled_follow_passes (Manager.passes_behind before (.listen "*" :: later)) hc

/-- A cache that follows a run has entered the values after each merging, one after another. -/
theorem look_follow_heard {c : κ} (hc : f.Settled c (Manager.after before).view.values)
    (k : String) :
    f.look (f.follow c (Manager.heard before "*" later)) k =
      (((Manager.mergingsBehind before (.listen "*" :: later)).map Merging.newValues).map
        fun s => s.get? k).foldl (f.enter k) (f.look c k) := by
  rw [Manager.heard_star]
  exact f.look_follow_passes (Manager.passes_behind before (.listen "*" :: later)) hc k

/-- While the merged value of a key stays the same, so does its entry. -/
theorem look_follow_heard_append {c : κ} (hc : f.Settled c (Manager.after before).view.values)
    (more : List (Operation ι)) {k : String}
    (hsame : ∀ m ∈ Manager.mergingsBehind (before ++ .listen "*" :: later) more,
      m.newValues.get? k = (Manager.after (before ++ .listen "*" :: later)).view.values.get? k) :
    f.look (f.follow c (Manager.heard before "*" (later ++ more))) k =
      f.look (f.follow c (Manager.heard before "*" later)) k := by
  have hsettled := f.settled_follow_heard before later hc
  have hvalues : (((Manager.mergingsBehind (before ++ .listen "*" :: later) more).map
      Merging.newValues).map fun s => s.get? k) =
      List.replicate (Manager.mergingsBehind (before ++ .listen "*" :: later) more).length
        ((Manager.after (before ++ .listen "*" :: later)).view.values.get? k) := by
    rw [List.map_map, List.eq_replicate_iff]
    refine ⟨List.length_map _, fun v hv => ?_⟩
    obtain ⟨m, hm, rfl⟩ := List.mem_map.1 hv
    exact hsame m hm
  rw [Manager.heard_star_append, follow_append,
    f.look_follow_passes (Manager.passes_behind (before ++ .listen "*" :: later) more) hsettled,
    hvalues]
  induction (Manager.mergingsBehind (before ++ .listen "*" :: later) more).length with
  | zero => rfl
  | succ n ih => rw [List.replicate_succ, List.foldl_cons, hsettled k, ih]

/-- A cache that an agent starts with its first source has followed the run of that source. -/
theorem addFirst_eq_follow_heard {ι : Type} (c : κ) (name : String) (priority : ℤ) (source : ι)
    (pulled : Option Snapshot) :
    (Agent.addFirst f.onEvent c name priority source pulled).2.1 =
      f.follow c (Manager.heard [] "*" [.addSource name priority source pulled]) := by
  have heffect := (Agent.listening (ι := ι)).explains_addSource name priority source pulled
  rw [Manager.heard_star]
  show (deliver f.onEvent c
    ((Agent.listening.addSource name priority source pulled).deliveries.map Prod.snd)).1 =
    (deliver f.onEvent c ((_ ++ []).flatMap Merging.events)).1
  rw [heffect.deliveries, map_snd_dispatch_listening, List.append_nil]
  rfl

end Follower

end SidecarAgent.Config
