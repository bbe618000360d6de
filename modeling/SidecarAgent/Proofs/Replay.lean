import Mathlib.Data.List.Induction
import Mathlib.Tactic.ByContra
import SidecarAgent.Config.KeyPattern
import SidecarAgent.Config.Value

/-!
# Replaying events

Whoever receives events can keep a snapshot up to date by replaying them.  `Leads s es t` says that
this works: every event of `es` is a real change where it is replayed, and replaying all of them on
`s` gives `t`.  The relation composes (`Leads.append`), survives leaving out the keys that a pattern
does not match (`Leads.restrict`), and holds for any events that change each key at most once, and
exactly where `s` and `t` differ (`leads_of_nodup`).
-/

namespace SidecarAgent.Config

/-! ## One event -/

/-- After an event its key has the event's value, and any other key what it had. -/
theorem get?_replay (s : Snapshot) (e : Event) (k : String) :
    (e.replay s).get? k = if k = e.key then e.change.value? else s.get? k := by
  unfold Event.replay Change.apply
  cases h : e.change.value? with
  | none => simp only [KeyMap.get?_erase]
  | some v => simp only [KeyMap.get?_insert, id]

/-- An event is a real change of a snapshot: it creates a key that is absent, gives a key that is
present a different value, or deletes a key that is present. -/
def Event.Fits (s : Snapshot) (e : Event) : Prop :=
  match e.change with
  | .create _ => s.get? e.key = none
  | .update v => ∃ u, s.get? e.key = some u ∧ u ≠ v
  | .delete => ∃ u, s.get? e.key = some u

/-- Whether an event fits depends only on what its key has. -/
theorem Event.Fits.congr {s t : Snapshot} {e : Event} (hfits : e.Fits s)
    (hget : s.get? e.key = t.get? e.key) : e.Fits t := by
  unfold Event.Fits at hfits ⊢
  rwa [← hget]

/-! ## Keys of a pattern -/

/-- What a snapshot has under the keys of a pattern. -/
def KeyPattern.restrict (p : KeyPattern) (s : Snapshot) : Snapshot :=
  s.filter fun k _ => p.accepts k

/-- A restricted snapshot has what the snapshot has, under the keys of the pattern. -/
theorem KeyPattern.get?_restrict (p : KeyPattern) (s : Snapshot) (k : String) :
    (p.restrict s).get? k = if p.accepts k then s.get? k else none := by
  unfold KeyPattern.restrict
  rw [KeyMap.get?_filter]
  cases s.get? k <;> simp [Option.filter]

/-- An event on a key of the pattern changes the restricted snapshot in the same way. -/
theorem KeyPattern.restrict_replay_of_accepts (p : KeyPattern) (s : Snapshot) (e : Event)
    (haccepts : p.accepts e.key = true) :
    p.restrict (e.replay s) = e.replay (p.restrict s) := by
  ext1 k
  rw [get?_replay, KeyPattern.get?_restrict, get?_replay, KeyPattern.get?_restrict]
  by_cases hk : k = e.key
  · subst hk
    rw [if_pos haccepts, if_pos rfl, if_pos rfl]
  · rw [if_neg hk, if_neg hk]

/-- An event on another key does not change the restricted snapshot. -/
theorem KeyPattern.restrict_replay_of_not_accepts (p : KeyPattern) (s : Snapshot) (e : Event)
    (haccepts : p.accepts e.key = false) : p.restrict (e.replay s) = p.restrict s := by
  ext1 k
  rw [KeyPattern.get?_restrict, get?_replay, KeyPattern.get?_restrict]
  by_cases hk : k = e.key
  · subst hk
    rw [haccepts]
    rfl
  · rw [if_neg hk]

/-! ## Many events -/

/-- Events lead from one snapshot to another when each fits where it is replayed, and replaying all
of them ends in the other. -/
inductive Leads : Snapshot → List Event → Snapshot → Prop
  | nil (s : Snapshot) : Leads s [] s
  | cons {s t : Snapshot} {e : Event} {es : List Event} (hfits : e.Fits s)
      (hrest : Leads (e.replay s) es t) : Leads s (e :: es) t

namespace Leads

variable {s t u : Snapshot} {es fs : List Event}

/-- Events that lead on from where others lead come after them. -/
theorem append (hes : Leads s es t) (hfs : Leads t fs u) : Leads s (es ++ fs) u := by
  induction hes with
  | nil => exact hfs
  | cons hfits _ ih => exact .cons hfits (ih hfs)

/-- Events lead to where replaying them ends. -/
theorem foldl_replay_eq (h : Leads s es t) : es.foldl Event.replay s = t := by
  induction h with
  | nil => rfl
  | cons _ _ ih => rw [List.foldl_cons, ih]

/-- Every event fits the snapshot to which the events before it lead. -/
theorem fits (h : Leads s es t) :
    ∀ earlier e later, es = earlier ++ e :: later → e.Fits (earlier.foldl Event.replay s) := by
  induction h with
  | nil =>
    intro earlier e later hsplit
    exact absurd hsplit.symm (by simp)
  | cons hfits _ ih =>
    intro earlier e later hsplit
    cases earlier with
    | nil =>
      rw [List.nil_append, List.cons.injEq] at hsplit
      rw [← hsplit.1]
      exact hfits
    | cons first earlier =>
      rw [List.cons_append, List.cons.injEq] at hsplit
      rw [List.foldl_cons, ← hsplit.1]
      exact ih earlier e later hsplit.2

/-- A listener that hears of the keys of a pattern only can replay what it hears. -/
theorem restrict (p : KeyPattern) (h : Leads s es t) :
    Leads (p.restrict s) (es.filter fun e => p.accepts e.key) (p.restrict t) := by
  induction h with
  | nil => exact .nil _
  | @cons s t e es hfits _ ih =>
    cases haccepts : p.accepts e.key with
    | true =>
      rw [List.filter_cons, if_pos haccepts]
      refine .cons (hfits.congr ?_) ?_
      · rw [KeyPattern.get?_restrict, if_pos haccepts]
      · rwa [← KeyPattern.restrict_replay_of_accepts p s e haccepts]
    | false =>
      rw [List.filter_cons, haccepts]
      rwa [← KeyPattern.restrict_replay_of_not_accepts p s e haccepts]

end Leads

/-- Replaying events leaves a key alone that none of them is about. -/
theorem get?_foldl_replay_of_not_mem {es : List Event} {k : String} (hk : k ∉ es.map Event.key)
    (s : Snapshot) : (es.foldl Event.replay s).get? k = s.get? k := by
  induction es generalizing s with
  | nil => rfl
  | cons e es ih =>
    rw [List.map_cons, List.mem_cons, not_or] at hk
    rw [List.foldl_cons, ih hk.2, get?_replay, if_neg hk.1]

/-- Replaying events on different keys gives each key the value of its event. -/
theorem get?_foldl_replay_of_mem {es : List Event}
    (hdistinct : (es.map Event.key).Nodup) {e : Event}
    (he : e ∈ es) (s : Snapshot) : (es.foldl Event.replay s).get? e.key = e.change.value? := by
  induction es generalizing s with
  | nil => cases he
  | cons first es ih =>
    rw [List.map_cons, List.nodup_cons] at hdistinct
    rw [List.foldl_cons]
    rcases List.mem_cons.1 he with rfl | he
    · rw [get?_foldl_replay_of_not_mem hdistinct.1, get?_replay, if_pos rfl]
    · exact ih hdistinct.2 he _

/-- The last of some events about a key. -/
def lastAbout (k : String) (es : List Event) : Option Event :=
  (es.filter fun e => e.key = k).getLast?

/-- Replaying events gives a key the value of the last event about it, if there is one. -/
theorem get?_foldl_replay (es : List Event) (s : Snapshot) (k : String) :
    (es.foldl Event.replay s).get? k =
      ((lastAbout k es).map fun e => e.change.value?).getD (s.get? k) := by
  induction es using List.reverseRecOn with
  | nil => rfl
  | append_singleton es e ih =>
    unfold lastAbout at ih ⊢
    rw [List.foldl_append, List.foldl_cons, List.foldl_nil, get?_replay, List.filter_append]
    by_cases hk : k = e.key
    · simp [hk]
    · simp [hk, Ne.symm hk, ih]

/-- Replaying two lists of events gives a key the same value when they have the same events about
the key, in the same order. -/
theorem get?_foldl_replay_congr {es fs : List Event} {k : String}
    (h : es.filter (fun e => e.key = k) = fs.filter fun e => e.key = k) (s : Snapshot) :
    (es.foldl Event.replay s).get? k = (fs.foldl Event.replay s).get? k := by
  rw [get?_foldl_replay, get?_foldl_replay]
  unfold lastAbout
  rw [h]

/-- Events on different keys lead from `s` to `t` when each fits `s` and gives its key what `t` has
there, and there is one for every key on which `s` and `t` differ.

The induction is on the events.  The first one makes its key agree with `t`, and since no other
event has that key, the others fit as before. -/
theorem leads_of_nodup {s t : Snapshot} {es : List Event} (hnodup : (es.map Event.key).Nodup)
    (hfits : ∀ e ∈ es, e.Fits s) (hvalue : ∀ e ∈ es, e.change.value? = t.get? e.key)
    (hcover : ∀ k, s.get? k ≠ t.get? k → k ∈ es.map Event.key) : Leads s es t := by
  induction es generalizing s with
  | nil =>
    have heq : s = t := by
      ext1 k
      by_contra hne
      simpa using hcover k hne
    exact heq ▸ .nil s
  | cons e es ih =>
    rw [List.map_cons, List.nodup_cons] at hnodup
    have hother : ∀ f ∈ es, f.key ≠ e.key := fun f hf heq =>
      hnodup.1 (heq ▸ List.mem_map_of_mem hf)
    -- the other events lead on from `e.replay s`, which differs from `s` at the key of `e` only
    refine .cons (hfits e (by simp)) (ih hnodup.2 ?_ ?_ ?_)
    · intro f hf
      refine (hfits f (by simp [hf])).congr ?_
      rw [get?_replay, if_neg (hother f hf)]
    · exact fun f hf => hvalue f (by simp [hf])
    · intro k hne
      rw [get?_replay] at hne
      by_cases hk : k = e.key
      · -- the key of `e` is settled, so nothing has to cover it any more
        rw [if_pos hk, hk] at hne
        exact absurd (hvalue e (by simp)) hne
      · rw [if_neg hk] at hne
        simpa [hk] using hcover k hne

end SidecarAgent.Config
