import Mathlib.Data.Nat.Notation
import Mathlib.Logic.Basic
import SidecarAgent.Agent.CommandLine

/-!
# What a command line holds its values to

Spans of time and capacities are numbers of a word, and that is all that a command line holds them
to: the settings of one that is accepted are bounded (`bounded_of_parse`), and every step of reading
it leaves them so.
-/

namespace SidecarAgent

/-- What comes out of two steps, the second of which uses the result of the first, came out of both.
-/
theorem exists_of_bind_eq_ok {ε α β : Type} {x : Except ε α} {f : α → Except ε β} {b : β}
    (h : x >>= f = .ok b) : ∃ a, x = .ok a ∧ f a = .ok b := by
  cases x with
  | error e => cases h
  | ok a => exact ⟨a, rfl, h⟩

/-- What comes out of a function that is applied to a result came out of the result. -/
theorem exists_of_map_eq_ok {ε α β : Type} {x : Except ε α} {f : α → β} {b : β}
    (h : x.map f = .ok b) : ∃ a, x = .ok a ∧ f a = b := by
  cases x with
  | error e => cases h
  | ok a =>
    cases h
    exact ⟨a, rfl, rfl⟩

/-! ## Spans that can be written -/

namespace Time

namespace Duration

/-- A span is bounded when its seconds are within the bound on numbers. -/
def Bounded (d : Duration) : Prop := d.seconds < numberBound

instance (d : Duration) : Decidable d.Bounded := inferInstanceAs (Decidable (_ < _))

/-- A sum is bounded. -/
theorem bounded_of_add? {d e : Duration} {seconds nanos : ℕ} (h : d.add? seconds nanos = some e) :
    e.Bounded := by
  unfold add? at h
  obtain ⟨n, -, h⟩ := Option.bind_eq_some_iff.1 h
  dsimp only at h
  split at h
  · rename_i hsum
    cases h
    exact hsum
  · cases h

/-- A span with the whole part of an amount more is bounded. -/
theorem bounded_of_addWhole? {d e : Duration} {a : Amount} (h : d.addWhole? a = some e) :
    e.Bounded := by
  unfold addWhole? at h
  obtain ⟨n, -, h⟩ := Option.bind_eq_some_iff.1 h
  split at h
  · exact bounded_of_add? h
  · exact bounded_of_add? h

/-- A bounded span with the decimals of an amount more is bounded. -/
theorem Bounded.addDecimals? {d e : Duration} (hd : d.Bounded) {a : Amount}
    (h : d.addDecimals? a = some e) : e.Bounded := by
  unfold Duration.addDecimals? at h
  split at h
  · cases h
    exact hd
  · obtain ⟨denominator, -, h⟩ := Option.bind_eq_some_iff.1 h
    split at h
    · obtain ⟨n, -, h⟩ := Option.bind_eq_some_iff.1 h
      exact bounded_of_add? h
    · obtain ⟨n, -, h⟩ := Option.bind_eq_some_iff.1 h
      exact bounded_of_add? h

/-- A span with an amount more is bounded. -/
theorem bounded_of_addAmount? {d e : Duration} {a : Amount} (h : d.addAmount? a = some e) :
    e.Bounded := by
  obtain ⟨whole, hwhole, h⟩ := Option.bind_eq_some_iff.1 h
  exact (bounded_of_addWhole? hwhole).addDecimals? h

/-- Amounts that are added to a bounded span give a bounded one. -/
theorem Bounded.sum? {steps : ℕ} {d e : Duration} (hd : d.Bounded) {cs : List Char}
    (h : Time.sum? steps d cs = some e) : e.Bounded := by
  induction steps generalizing d cs with
  | zero => cases h
  | succ steps ih =>
    unfold Time.sum? at h
    split at h
    · cases h
      exact hd
    · split at h
      · split at h
        · obtain ⟨sum, hsum, h⟩ := Option.bind_eq_some_iff.1 h
          exact ih (bounded_of_addAmount? hsum) h
        · cases h
      · cases h

/-- A span that is read is bounded. -/
theorem bounded_of_parse? {text : String} {d : Duration} (h : parse? text = some d) :
    d.Bounded := by
  have hzero : (ofSeconds 0).Bounded := by decide
  unfold parse? at h
  dsimp only at h
  split at h
  · cases h
    exact hzero
  · split at h
    · cases h
    · exact hzero.sum? h

end Duration

end Time

/-! ## Values of a command line -/

namespace Agent

open Time (Duration)

/-- Settings are bounded when their spans and their capacity are. -/
structure Settings.Bounded (settings : Settings) : Prop where
  egress : settings.egressRefreshInterval.Bounded
  endpoints : settings.endpointRefreshInterval.Bounded
  timeout : settings.requestTimeout.Bounded
  capacity : settings.triggerCapacity < capacityBound

/-- Settings where nothing is said are bounded. -/
theorem Settings.bounded_default : Settings.Bounded {} := by
  constructor <;> decide

/-- A span that a value gives is bounded. -/
theorem bounded_of_readDuration {value : String} {d : Duration} (h : readDuration value = .ok d) :
    d.Bounded := by
  unfold readDuration at h
  split at h
  · rename_i hparse
    cases h
    exact Duration.bounded_of_parse? hparse
  · cases h

/-- A capacity that a value gives is within its bound. -/
theorem lt_of_readCapacity {value : String} {n : ℕ} (h : readCapacity value = .ok n) :
    n < capacityBound := by
  unfold readCapacity Text.naturalBelow? at h
  dsimp only at h
  split at h
  · rename_i hread
    cases h
    split at hread
    · split at hread
      · rename_i hlt
        cases hread
        exact hlt
      · cases hread
    · cases hread
  · cases h

/-- A parameter that is given a value leaves settings bounded. -/
theorem Settings.Bounded.set {settings later : Settings} (hs : settings.Bounded) {p : Parameter}
    {value : String} (h : settings.set p value = .ok later) : later.Bounded := by
  cases p with
  | controlPlane | egressBackend | metricsAddress =>
    cases h
    exact ⟨hs.egress, hs.endpoints, hs.timeout, hs.capacity⟩
  | egressFile =>
    obtain ⟨path, -, rfl⟩ := exists_of_map_eq_ok h
    exact ⟨hs.egress, hs.endpoints, hs.timeout, hs.capacity⟩
  | egressRefreshInterval =>
    obtain ⟨d, hd, rfl⟩ := exists_of_map_eq_ok h
    exact ⟨bounded_of_readDuration hd, hs.endpoints, hs.timeout, hs.capacity⟩
  | endpointRefreshInterval =>
    obtain ⟨d, hd, rfl⟩ := exists_of_map_eq_ok h
    exact ⟨hs.egress, bounded_of_readDuration hd, hs.timeout, hs.capacity⟩
  | requestTimeout =>
    obtain ⟨d, hd, rfl⟩ := exists_of_map_eq_ok h
    exact ⟨hs.egress, hs.endpoints, bounded_of_readDuration hd, hs.capacity⟩
  | triggerCapacity =>
    obtain ⟨n, hn, rfl⟩ := exists_of_map_eq_ok h
    exact ⟨hs.egress, hs.endpoints, hs.timeout, lt_of_readCapacity hn⟩

namespace Progress

variable {p q : Progress}

/-- Noting that an argument is given changes no setting. -/
theorem settings_of_give {argument : Argument} (h : p.give argument = .ok q) :
    q.settings = p.settings := by
  unfold give at h
  split at h
  · cases h
  · cases h
    rfl

/-- A parameter that is assigned a value leaves the settings bounded. -/
theorem bounded_of_assign (hp : p.settings.Bounded) {parameter : Parameter} {value : String}
    (h : p.assign parameter value = .ok q) : q.settings.Bounded := by
  obtain ⟨given, hgive, h⟩ := exists_of_bind_eq_ok h
  obtain ⟨settings, hset, h⟩ := exists_of_bind_eq_ok h
  cases h
  rw [← settings_of_give hgive] at hp
  exact hp.set hset

/-- Settling what is pending leaves the settings bounded. -/
theorem bounded_of_settle (hp : p.settings.Bounded) (h : p.settle = .ok q) :
    q.settings.Bounded := by
  unfold settle at h
  split at h
  · cases h
    exact hp
  · exact bounded_of_assign (p := { p with pending := none }) hp h
  · cases h

/-- Taking a name leaves the settings bounded. -/
theorem bounded_of_takeNamed (hp : p.settings.Bounded) {named : Named} {attached : Option String}
    (h : p.takeNamed named attached = .ok q) : q.settings.Bounded := by
  cases attached with
  | some value =>
    cases named with
    | parameter parameter =>
      obtain ⟨settled, hsettle, h⟩ := exists_of_bind_eq_ok h
      exact bounded_of_assign (bounded_of_settle hp hsettle) h
    | switch | help | version => cases h
  | none =>
    cases named with
    | parameter parameter =>
      obtain ⟨settled, hsettle, hq⟩ := exists_of_bind_eq_ok h
      have hs := bounded_of_settle hp hsettle
      rw [← Except.ok.inj hq]
      exact hs
    | switch s =>
      obtain ⟨settled, hsettle, hrest⟩ := exists_of_bind_eq_ok h
      obtain ⟨given, hgive, hq⟩ := exists_of_bind_eq_ok hrest
      have hs := bounded_of_settle hp hsettle
      rw [← settings_of_give hgive] at hs
      rw [← Except.ok.inj hq]
      cases s <;> exact ⟨hs.egress, hs.endpoints, hs.timeout, hs.capacity⟩
    | help | version =>
      obtain ⟨settled, -, hstop⟩ := exists_of_bind_eq_ok h
      cases hstop

/-- Reading words leaves the settings bounded. -/
theorem bounded_of_readWords (hp : p.settings.Bounded) {words : List Word}
    (h : p.readWords words = .ok q) : q.settings.Bounded := by
  induction words generalizing p with
  | nil => exact bounded_of_settle hp h
  | cons word rest ih =>
    cases word with
    | endOfNames =>
      cases rest with
      | nil => exact bounded_of_settle hp h
      | cons => cases h
    | plain text =>
      obtain ⟨next, htake, h⟩ := exists_of_bind_eq_ok h
      refine ih ?_ h
      unfold takePlain at htake
      split at htake
      · cases htake
        exact hp
      · cases htake
    | long name attached =>
      unfold readWords at h
      split at h
      · obtain ⟨next, htake, h⟩ := exists_of_bind_eq_ok h
        exact ih (bounded_of_takeNamed hp htake) h
      · cases h
    | short letter =>
      unfold readWords at h
      split at h
      · obtain ⟨next, htake, h⟩ := exists_of_bind_eq_ok h
        exact ih (bounded_of_takeNamed hp htake) h
      · cases h

/-- Taking variables leaves the settings bounded. -/
theorem bounded_of_takeVariables (hp : p.settings.Bounded) {environment : String → Option String}
    {parameters : List Parameter} (h : parameters.foldlM (takeVariable environment) p = .ok q) :
    q.settings.Bounded := by
  induction parameters generalizing p with
  | nil =>
    cases h
    exact hp
  | cons parameter rest ih =>
    obtain ⟨next, htake, h⟩ := exists_of_bind_eq_ok h
    refine ih ?_ h
    unfold takeVariable at htake
    split at htake
    · cases htake
      exact hp
    · split at htake
      · exact bounded_of_assign hp htake
      · cases htake
        exact hp

end Progress

/-- The settings of a command line that is accepted are bounded. -/
theorem bounded_of_parse {arguments : List String} {environment : String → Option String}
    {settings : Settings} (h : Settings.parse arguments environment = .ok settings) :
    settings.Bounded := by
  obtain ⟨read, hread, h⟩ := exists_of_bind_eq_ok h
  obtain ⟨filled, hfilled, h⟩ := exists_of_bind_eq_ok h
  cases h
  exact Progress.bounded_of_takeVariables
    (Progress.bounded_of_readWords Settings.bounded_default hread) hfilled

end Agent

end SidecarAgent
