import SidecarAgent.Proofs.EgressPublication
import SidecarAgent.Proofs.FailedCycles

/-!
# The sides of an agent at work

A side is sound when its manager has its source and no other, its cache listens to the manager
before anybody else, and the cache is settled on what the source has (`Branch.Sound`).  A successful
pull then enters what was pulled into the cache (`Branch.Sound.refresh_ok`), and whatever happens to
an agent at work, its sides stay sound (`Working.sound_run`).
-/

namespace SidecarAgent.Agent

open Config
open Config.Manager (received)
open Discovery
open Endpoint (Driver)

/-! ## Caches that follow -/

namespace Side

/-- What the cache of a side has under a key. -/
def Entry : Side → Type
  | egress => Egress.ValidRules
  | endpoints => Endpoint.Cached

/-- The cache of a side as a follower. -/
def follower : (side : Side) → Follower side.Cache side.Entry
  | egress => Egress.follower
  | endpoints => Endpoint.follower

/-- The cache of a side follows the events that it is told of. -/
theorem follow_eq (side : Side) (cache : side.Cache) (es : List Event) :
    side.follower.follow cache es = (deliver side.onEvent cache es).1 := by
  cases side with
  | egress => rfl
  | endpoints => rfl

/-- A cache that nothing was entered into is settled where there is nothing. -/
theorem settled_emptyCache (side : Side) : side.follower.Settled side.emptyCache ∅ := by
  cases side with
  | egress => exact Egress.settled_empty
  | endpoints => exact Endpoint.settled_empty

end Side

namespace Branch

variable {side : Side} {b : Branch side}

/-- A side is sound when its manager has just its source with what was pulled last, its cache is the
first listener, for every key, and the cache is settled on what was pulled last. -/
structure Sound (b : Branch side) : Prop where
  hasOnly : b.manager.HasOnly ⟨b.source.name, b.source.priority, (), b.source.current⟩
  orderly : b.Orderly
  numbered : b.manager.Numbered
  listens : (KeyPattern.parse "*", 0) ∈ b.manager.listeners
  settled : side.follower.Settled b.cache b.source.current

/-- The view of a sound side is resolved. -/
theorem Sound.resolved (h : b.Sound) : b.manager.view.Resolved := by
  obtain ⟨rs, hrs⟩ := h.orderly
  exact hrs.resolved

/-- When all that the manager of a side delivers is the difference to what the source has now, the
cache enters what the source has now. -/
theorem look_perform {m : Manager Unit ℕ} (hnumbered : m.Numbered)
    (hlistens : (KeyPattern.parse "*", 0) ∈ m.listeners) {name : String} {old new : Snapshot}
    {effect : Manager.Effect Unit ℕ}
    (hdeliveries : effect.deliveries = m.dispatch (diff name old new))
    (hsettled : side.follower.Settled b.cache old) (k : String) :
    side.follower.look (b.perform effect).cache k =
      side.follower.enter k (side.follower.look b.cache k) (new.get? k) := by
  have hreceived : received 0 effect.deliveries = diff name old new := by
    rw [hdeliveries]
    exact Manager.received_dispatch_star hnumbered hlistens _
  have hcache : (b.perform effect).cache = side.follower.follow b.cache (diff name old new) := by
    rw [Side.follow_eq, ← hreceived]
    rfl
  rw [hcache]
  exact side.follower.look_follow_leads (leads_diff name old new) (diff_keys_nodup name old new)
    hsettled k

/-- A cache that has entered what there is now is settled on it. -/
theorem settled_of_look {cache later : side.Cache} {new : Snapshot}
    (h : ∀ k, side.follower.look later k =
      side.follower.enter k (side.follower.look cache k) (new.get? k)) :
    side.follower.Settled later new := by
  intro k
  rw [h k, side.follower.enter_enter]

/-- A side begins sound. -/
theorem sound_begin (side : Side) (first : Except DiscoveryError Snapshot) :
    (begin side first).Sound := by
  have hresolved : (empty side).manager.view.Resolved := Manager.orderly_empty.resolved
  have hnumbered : (empty side).manager.Numbered := rfl
  have hlistens : (KeyPattern.parse "*", 0) ∈ (empty side).manager.listeners := List.mem_cons_self
  have hnothing : side.source.current = ∅ := by cases side <;> rfl
  -- whatever the source has been asked for, it is added with what it has then
  have hadded : ∀ (source : PolledSource) (pulled : Option Snapshot),
      source.current = pulled.getD ∅ →
      ({ empty side with source := source }.perform
        ((empty side).manager.addSource source.name source.priority () pulled)).Sound := by
    intro source pulled hcurrent
    have hdeliveries := Manager.deliveries_addSource_first (m := (empty side).manager) rfl hresolved
      source.name source.priority () pulled
    have honly := Manager.hasOnly_addSource (m := (empty side).manager) rfl source.name
      source.priority () pulled
    rw [creations_eq_diff, ← hcurrent] at hdeliveries
    rw [← hcurrent] at honly
    refine ⟨honly, ⟨_, Manager.orderly_empty.register _⟩, hnumbered, hlistens, ?_⟩
    exact settled_of_look
      (look_perform (b := { empty side with source := source }) hnumbered hlistens
      hdeliveries side.settled_emptyCache)
  unfold begin
  cases first with
  | ok s => exact hadded { side.source with current := s } (some s) rfl
  | error e => exact hadded side.source none hnothing

/-- A pull that succeeds brings the source of a sound side to its result, and the cache enters the
result. -/
theorem Sound.refresh_ok (h : b.Sound) (driver : Driver) (s : Snapshot) :
    (b.refresh driver (.ok s)).Sound ∧
      (b.refresh driver (.ok s)).source = { b.source with current := s } ∧
      ∀ k, side.follower.look (b.refresh driver (.ok s)).cache k =
        side.follower.enter k (side.follower.look b.cache k) (s.get? k) := by
  have hdeliveries := Endpoint.Pipeline.deliveries_run_ok h.hasOnly h.resolved driver s
  have honly := Endpoint.Pipeline.hasOnly_run_ok h.hasOnly driver s
  have hlook := look_perform (b := { b with source := { b.source with current := s } }) h.numbered
    h.listens hdeliveries h.settled
  obtain ⟨rs, hrs⟩ := h.orderly
  refine ⟨⟨honly, ⟨_, Manager.orderly_run hrs _⟩, Manager.numbered_run h.numbered _,
    Manager.mem_listeners_run h.listens _, settled_of_look hlook⟩, rfl, hlook⟩

/-- A side that is refreshed stays sound, however its pull ends. -/
theorem Sound.refresh (h : b.Sound) (driver : Driver) (result : Except DiscoveryError Snapshot) :
    (b.refresh driver result).Sound := by
  cases result with
  | ok s => exact (h.refresh_ok driver s).1
  | error e =>
    rw [refresh_error h.orderly]
    exact h

/-- A side with one more listener stays sound. -/
theorem Sound.listen (h : b.Sound) (pattern : String) : (b.listen pattern).Sound :=
  ⟨h.hasOnly, h.orderly.perform_run b.source _, Manager.numbered_run h.numbered _,
    Manager.mem_listeners_run h.listens _, h.settled⟩

end Branch

/-! ## Agents at work -/

namespace Working

/-- An agent begins to work with sound sides. -/
theorem sound_begin (node : Node) (egress endpoints : Answers) (side : Side) :
    ((begin node egress endpoints).branch side).Sound := by
  cases side with
  | egress => exact Branch.sound_begin .egress _
  | endpoints => exact Branch.sound_begin .endpoints _

/-- Whatever happens, the sides stay sound. -/
theorem sound_after {a : Working} (h : ∀ side, (a.branch side).Sound) (happening : Happening) :
    ∀ side, ((a.after happening).branch side).Sound := by
  cases happening with
  | cycle changed driver answers =>
    refine (Function.forall_update_iff a.branch (p := fun _ b => b.Sound)).2
      ⟨?_, fun side _ => h side⟩
    exact (h changed).refresh driver _
  | listen changed pattern =>
    refine (Function.forall_update_iff a.branch (p := fun _ b => b.Sound)).2
      ⟨?_, fun side _ => h side⟩
    exact (h changed).listen pattern
  | exchange x => exact h

/-- Whatever happens one after another, the sides stay sound. -/
theorem sound_run {a : Working} (h : ∀ side, (a.branch side).Sound) (happenings : List Happening) :
    ∀ side, ((a.run happenings).branch side).Sound := by
  induction happenings generalizing a with
  | nil => exact h
  | cons happening rest ih => exact ih (sound_after h happening)

end Working

end SidecarAgent.Agent
