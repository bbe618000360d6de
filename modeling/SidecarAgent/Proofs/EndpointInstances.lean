import Mathlib.Data.List.Forall2
import SidecarAgent.Discovery.Resource
import SidecarAgent.Endpoint.Subset

/-!
# The instances of a load assignment

An endpoint has a place in its assignment: the number of its locality, and its number there.  The
instances that are built from an assignment stand for the endpoints with a socket address, one for
each, in the order of their places (`instances_stand_for_endpoints`).  The written form of an
address determines the address and the port, since the last colon is the one between them, and so
does the id of an instance where the address has no underscore of its own
(`instanceId_text_eq_iff`).
-/

namespace SidecarAgent.Discovery

/-! ## Written addresses -/

/-- A text that is cut at a mark, which the second part does not have, has one first and one second
part. -/
theorem append_cons_eq_iff {mark : Char} {front back front' back' : List Char} (hback : mark ∉ back)
    (hback' : mark ∉ back') :
    front ++ mark :: back = front' ++ mark :: back' ↔ front = front' ∧ back = back' := by
  constructor
  · intro h
    rcases List.append_eq_append_iff.1 h with ⟨between, hfront, hrest⟩ | ⟨between, hfront, hrest⟩
    · cases between with
      | nil => exact ⟨by rw [hfront, List.append_nil], (List.cons.inj hrest).2⟩
      | cons c between =>
        -- the mark of the second text would be in the second part of the first
        refine absurd ?_ hback
        rw [(List.cons.inj hrest).2]
        exact List.mem_append_right between List.mem_cons_self
    · cases between with
      | nil => exact ⟨by rw [hfront, List.append_nil], ((List.cons.inj hrest).2).symm⟩
      | cons c between =>
        refine absurd ?_ hback'
        rw [(List.cons.inj hrest).2]
        exact List.mem_append_right between List.mem_cons_self
  · rintro ⟨rfl, rfl⟩
    rfl

namespace SocketAddress

/-- The digits of the port of an address. -/
def digits (a : SocketAddress) : List Char := Nat.toDigits 10 a.portNumber

/-- The written form of an address is the address and the digits of its port, with a colon between.
-/
theorem toList_text (a : SocketAddress) : a.text.toList = a.address.toList ++ ':' :: a.digits := by
  unfold text digits
  rw [String.toList_append, String.toList_append, Nat.toString_eq_repr, Nat.toList_repr]
  simp

/-- The digits of a port are digits. -/
theorem isDigit_of_mem_digits {a : SocketAddress} {c : Char} (h : c ∈ a.digits) : c.isDigit :=
  Nat.isDigit_of_mem_toDigits (by decide) (by decide) h

/-- The digits of a port have no colon. -/
theorem colon_not_mem_digits (a : SocketAddress) : ':' ∉ a.digits := fun h =>
  absurd (isDigit_of_mem_digits h) (by decide)

/-- The digits of a port have no underscore. -/
theorem underscore_not_mem_digits (a : SocketAddress) : '_' ∉ a.digits := fun h =>
  absurd (isDigit_of_mem_digits h) (by decide)

/-- The digits of a port determine it. -/
theorem digits_eq_iff {a b : SocketAddress} :
    a.digits = b.digits ↔ a.portNumber = b.portNumber := by
  have hread : ∀ c : SocketAddress, Nat.ofDigitChars 10 c.digits 0 = c.portNumber := fun c =>
    Nat.ofDigitChars_toDigits (by decide) (by decide)
  constructor
  · intro h
    rw [← hread a, h, hread b]
  · intro h
    unfold digits
    rw [h]

/-- The written form of an address determines the address and its port. -/
theorem text_eq_iff {a b : SocketAddress} :
    a.text = b.text ↔ a.address = b.address ∧ a.portNumber = b.portNumber := by
  rw [← String.toList_inj, toList_text, toList_text,
    append_cons_eq_iff a.colon_not_mem_digits b.colon_not_mem_digits, String.toList_inj,
      digits_eq_iff]

/-- The port of an address is told by its number, and is zero if it has none or one that is told by
name. -/
def HasPort (a : SocketAddress) (port : ℕ) : Prop :=
  a.port = some (.number port) ∨ port = 0 ∧ ∀ n, a.port ≠ some (.number n)

/-- The port of an address is its port number. -/
theorem hasPort_iff {a : SocketAddress} {port : ℕ} : a.HasPort port ↔ port = a.portNumber := by
  unfold HasPort portNumber
  match a.port with
  | none => simp
  | some (.number n) => simp [eq_comm]
  | some (.named name) => simp

/-- Two addresses have one port when their port numbers are the same. -/
theorem exists_hasPort_iff {a b : SocketAddress} :
    (∃ port, a.HasPort port ∧ b.HasPort port) ↔ a.portNumber = b.portNumber := by
  simp only [hasPort_iff]
  constructor
  · rintro ⟨port, rfl, hport⟩
    exact hport
  · intro h
    exact ⟨_, rfl, h⟩

/-- The written form of an address without an underscore has none. -/
theorem underscore_not_mem_text {a : SocketAddress} (h : '_' ∉ a.address.toList) :
    '_' ∉ a.text.toList := by
  rw [toList_text, List.mem_append, List.mem_cons, not_or, not_or]
  exact ⟨h, by decide, a.underscore_not_mem_digits⟩

end SocketAddress

/-! ## Places -/

/-- An assignment has a socket address at a place. -/
def LoadAssignment.HasAt (assignment : LoadAssignment) (place : ℕ × ℕ) (a : SocketAddress) : Prop :=
  ∃ endpoints, assignment.localities[place.1]? = some endpoints ∧
    endpoints[place.2]? = some (.endpoint (some (.socket a)))

/-- A place comes before another one when its locality does, or in the same locality its number. -/
def PlaceBefore : ℕ × ℕ → ℕ × ℕ → Prop := Prod.Lex (· < ·) (· < ·)

/-- An endpoint has a socket address when it is identified by one. -/
theorem EndpointHost.socketAddress?_eq_some_iff {e : EndpointHost} {a : SocketAddress} :
    e.socketAddress? = some a ↔ e = .endpoint (some (.socket a)) := by
  constructor
  · intro h
    unfold socketAddress? at h
    split at h
    · cases h
      rfl
    · cases h
  · rintro rfl
    rfl

/-- The members of a list come in the order of their numbers. -/
theorem pairwise_zipIdx {α : Type} (l : List α) : l.zipIdx.Pairwise fun x y => x.2 < y.2 := by
  rw [← List.pairwise_map (f := Prod.snd), List.zipIdx_map_snd]
  exact List.pairwise_lt_range'

namespace LoadAssignment

/-- The socket addresses of the endpoints of a locality, with their places. -/
def locatedIn (endpoints : List EndpointHost) (locality : ℕ) : List ((ℕ × ℕ) × SocketAddress) :=
  endpoints.zipIdx.filterMap fun (e, n) => e.socketAddress?.map fun a => ((locality, n), a)

/-- The socket addresses of an assignment, with their places. -/
def located (assignment : LoadAssignment) : List ((ℕ × ℕ) × SocketAddress) :=
  assignment.localities.zipIdx.flatMap fun (endpoints, locality) => locatedIn endpoints locality

/-- Without their places, the located addresses are the socket addresses. -/
theorem map_snd_located (assignment : LoadAssignment) :
    assignment.located.map Prod.snd = assignment.socketAddresses := by
  have hin : ∀ (endpoints : List EndpointHost) (locality : ℕ),
      (locatedIn endpoints locality).map Prod.snd =
        endpoints.filterMap EndpointHost.socketAddress? := by
    intro endpoints locality
    unfold locatedIn
    rw [List.map_filterMap]
    conv_rhs => rw [← List.zipIdx_map_fst 0 endpoints, List.filterMap_map]
    refine List.filterMap_congr fun x _ => ?_
    rw [Option.map_map]
    exact Option.map_id'
  unfold located socketAddresses
  rw [List.map_flatMap, List.filterMap_flatten]
  conv_rhs => rw [← List.zipIdx_map_fst 0 assignment.localities, List.map_map]
  rw [← List.flatMap_def]
  exact List.flatMap_congr fun x _ => hin x.1 x.2

/-- An address is located at the places where the assignment has it. -/
theorem mem_located_iff {assignment : LoadAssignment} {place : ℕ × ℕ} {a : SocketAddress} :
    (place, a) ∈ assignment.located ↔ assignment.HasAt place a := by
  obtain ⟨locality, number⟩ := place
  unfold located locatedIn HasAt
  simp only [List.mem_flatMap, List.mem_filterMap, Prod.exists, List.mem_zipIdx_iff_getElem?,
    Option.map_eq_some_iff, Prod.mk.injEq, EndpointHost.socketAddress?_eq_some_iff]
  constructor
  · rintro ⟨endpoints, _, hendpoints, e, _, he, b, rfl, ⟨rfl, rfl⟩, rfl⟩
    exact ⟨endpoints, hendpoints, he⟩
  · rintro ⟨endpoints, hendpoints, he⟩
    exact ⟨endpoints, locality, hendpoints, _, number, he, a, rfl, ⟨rfl, rfl⟩, rfl⟩

/-- The addresses are located in the order of their places. -/
theorem pairwise_located (assignment : LoadAssignment) :
    assignment.located.Pairwise fun x y => PlaceBefore x.1 y.1 := by
  have hplace : ∀ {endpoints : List EndpointHost} {locality : ℕ} {x : (ℕ × ℕ) × SocketAddress},
      x ∈ locatedIn endpoints locality → x.1.1 = locality := by
    intro endpoints locality x hx
    obtain ⟨e, -, he⟩ := List.mem_filterMap.1 hx
    obtain ⟨a, -, rfl⟩ := Option.map_eq_some_iff.1 he
    rfl
  unfold located
  rw [List.pairwise_flatMap]
  refine ⟨fun x _ => ?_, (pairwise_zipIdx _).imp fun hlt y hy z hz => ?_⟩
  · unfold locatedIn
    rw [List.pairwise_filterMap]
    refine (pairwise_zipIdx _).imp fun hlt y hy z hz => ?_
    obtain ⟨a, -, rfl⟩ := Option.map_eq_some_iff.1 hy
    obtain ⟨b, -, rfl⟩ := Option.map_eq_some_iff.1 hz
    exact Prod.Lex.right _ hlt
  · refine Prod.lex_def.2 (.inl ?_)
    rw [hplace hy, hplace hz]
    exact hlt

end LoadAssignment

end SidecarAgent.Discovery

namespace SidecarAgent.Endpoint

open Discovery

/-! ## Ids -/

/-- The id of an instance determines its address where that has no underscore. -/
theorem instanceId_eq_iff {s t : String} (hs : '_' ∉ s.toList) (ht : '_' ∉ t.toList) :
    instanceId s = instanceId t ↔ s = t := by
  -- colons can be put back where there were no underscores before
  let back (c : Char) : Char := if c = '_' then ':' else c
  have hback : ∀ {u : String}, '_' ∉ u.toList → (instanceId u).toList.map back = u.toList := by
    intro u hu
    unfold instanceId
    rw [String.toList_ofList, List.map_map]
    refine (List.map_congr_left fun c hc => ?_).trans (List.map_id _)
    have hne : c ≠ '_' := fun heq => hu (heq ▸ hc)
    show back (if c = ':' then '_' else c) = c
    by_cases hcolon : c = ':'
    · rw [if_pos hcolon, hcolon]
      rfl
    · rw [if_neg hcolon]
      exact if_neg hne
  constructor
  · intro h
    rw [← String.toList_inj, ← hback hs, h, hback ht]
  · rintro rfl
    rfl

/-- An underscore in an address may stand for a colon in another one. -/
example : instanceId "host_1:80" = instanceId "host:1:80" := by decide

/-- Socket addresses without underscores have one instance id exactly if they have one address and
one port. -/
theorem instanceId_text_eq_iff {a b : SocketAddress} (ha : '_' ∉ a.address.toList)
    (hb : '_' ∉ b.address.toList) :
    instanceId a.text = instanceId b.text ↔
      a.address = b.address ∧ ∃ port, a.HasPort port ∧ b.HasPort port := by
  rw [instanceId_eq_iff (SocketAddress.underscore_not_mem_text ha)
    (SocketAddress.underscore_not_mem_text hb), SocketAddress.text_eq_iff,
    SocketAddress.exists_hasPort_iff]

/-! ## Instances -/

/-- An instance of a cluster stands for the endpoint at a place of an assignment: the endpoint has a
socket address, the instance has this address and its port with a colon between, and its id is the
same with underscores for the colons. -/
def Instance.StandsFor (i : Instance) (cluster : String) (tags : Tags) (assignment : LoadAssignment)
    (place : ℕ × ℕ) : Prop :=
  ∃ a port, assignment.HasAt place a ∧ a.HasPort port ∧
    i.address = a.address ++ ":" ++ toString port ∧
    i.id.toList = i.address.toList.map (fun c => if c = ':' then '_' else c) ∧
    i = ⟨instanceId a.text, cluster, a.text, defaultProtocol, tags⟩

/-- The instance that is built for an endpoint with a socket address stands for it. -/
theorem standsFor_ofAddress {assignment : LoadAssignment} {place : ℕ × ℕ} {a : SocketAddress}
    (h : assignment.HasAt place a) (cluster : String) (tags : Tags) :
    (Instance.ofAddress cluster a.text tags).StandsFor cluster tags assignment place :=
  ⟨a, a.portNumber, h, SocketAddress.hasPort_iff.2 rfl, rfl, String.toList_ofList, rfl⟩

/-- The instances that are built from an assignment stand for the endpoints of the assignment that
have a socket address, one for each of them and in the order of their places.  The ids of instances
at socket addresses without underscores, of one assignment or of several, are the same exactly if
the addresses and the ports are. -/
theorem instances_stand_for_endpoints (assignment : LoadAssignment) (cluster name : String)
    (tags : Tags) :
    (∃ places : List (ℕ × ℕ), places.Pairwise PlaceBefore ∧
      (∀ place, place ∈ places ↔ ∃ a, assignment.HasAt place a) ∧
      List.Forall₂ (fun place i => Instance.StandsFor i cluster tags assignment place) places
        (Subset.ofAddresses cluster name tags assignment.addresses).instances) ∧
    ∀ a b : SocketAddress, '_' ∉ a.address.toList → '_' ∉ b.address.toList →
      (instanceId a.text = instanceId b.text ↔
        a.address = b.address ∧ ∃ port, a.HasPort port ∧ b.HasPort port) := by
  refine ⟨⟨assignment.located.map Prod.fst, ?_, fun place => ?_, ?_⟩,
    fun a b => instanceId_text_eq_iff⟩
  · rw [List.pairwise_map]
    exact assignment.pairwise_located
  · rw [List.mem_map]
    constructor
    · rintro ⟨⟨_, a⟩, hmem, rfl⟩
      exact ⟨a, LoadAssignment.mem_located_iff.1 hmem⟩
    · rintro ⟨a, ha⟩
      exact ⟨(place, a), LoadAssignment.mem_located_iff.2 ha, rfl⟩
  · have hinstances : (Subset.ofAddresses cluster name tags assignment.addresses).instances =
        assignment.located.map fun x => Instance.ofAddress cluster x.2.text tags := by
      unfold Subset.ofAddresses LoadAssignment.addresses
      rw [← assignment.map_snd_located, List.map_map, List.map_map]
      rfl
    rw [hinstances, List.forall₂_map_left_iff, List.forall₂_map_right_iff, List.forall₂_same]
    exact fun x hx => standsFor_ofAddress (LoadAssignment.mem_located_iff.1 hx) cluster tags

/-- Addresses that differ in nothing but the port have different ids, and so have addresses that
differ in where their colons stand. -/
theorem ids_apart_of_ports :
    let a : SocketAddress := ⟨"fe80::1", some (.number 80)⟩
    let b : SocketAddress := ⟨"fe80::1", some (.number 443)⟩
    let c : SocketAddress := ⟨"fe80::1", none⟩
    let d : SocketAddress := ⟨"fe80::", some (.number 10)⟩
    (∀ x ∈ [a, b, c, d], '_' ∉ x.address.toList) ∧
      instanceId a.text ≠ instanceId b.text ∧ instanceId c.text ≠ instanceId d.text := by
  intro a b c d
  have hnone : ∀ x ∈ [a, b, c, d], '_' ∉ x.address.toList := by decide
  have hids := fun x hx y hy => (instances_stand_for_endpoints ⟨"web", []⟩ "web" "" ∅).2 x y
    (hnone x hx) (hnone y hy)
  refine ⟨hnone, fun h => ?_, fun h => ?_⟩
  · have hsame := ((hids a (by simp) b (by simp)).1 h).2
    exact absurd (SocketAddress.exists_hasPort_iff.1 hsame) (by decide)
  · exact absurd ((hids c (by simp) d (by simp)).1 h).1 (by decide)

end SidecarAgent.Endpoint
