import SidecarAgent.Config.ChangeKind
import SidecarAgent.Discovery.ResourceType

/-!
# Metrics

The agent counts what it does in a few families of metrics, some of them split by labels.  A
`Ledger` holds the reading of every metric that was touched: the value of a counter or a gauge, the
number of samples of a histogram.
-/

namespace SidecarAgent.Telemetry

open Config (ChangeKind)
open Discovery (ResourceType)

/-! ## Families -/

/-- How the readings of a family move: up by one, to any value, or by one sample. -/
inductive MetricKind where
  | counter
  | gauge
  | histogram
  deriving DecidableEq, Repr

/-- The word for a kind of metric. -/
def MetricKind.text : MetricKind → String
  | counter => "counter"
  | gauge => "gauge"
  | histogram => "histogram"

/-- The families of metrics. -/
inductive MetricFamily where
  | requestTime
  | refreshTime
  | requests
  | events
  | rejected
  | egressRules
  | endpointSubsets
  deriving DecidableEq, Repr

namespace MetricFamily

/-- Every family, in the order in which they are described to a collector. -/
def all : List MetricFamily :=
  [requestTime, refreshTime, requests, events, rejected, egressRules, endpointSubsets]

/-- The kind of a family. -/
def kind : MetricFamily → MetricKind
  | requestTime | refreshTime => .histogram
  | requests | events | rejected => .counter
  | egressRules | endpointSubsets => .gauge

/-- The name of a family. -/
def name : MetricFamily → String
  | requestTime => "xds.request_time"
  | refreshTime => "config.refresh_time"
  | requests => "xds.requests"
  | events => "config.events"
  | rejected => "egress.rejected"
  | egressRules => "cache.egress_rules"
  | endpointSubsets => "cache.endpoint_subsets"

/-- The unit of a family's samples, which all measure time. -/
def unit? (f : MetricFamily) : Option String :=
  match f.kind with
  | .histogram => some "seconds"
  | _ => none

/-- What a family says about the agent. -/
def description : MetricFamily → String
  | requestTime => "Time to complete a single discovery request/response (seconds)"
  | refreshTime => "Time to pull and diff a configuration source (seconds)"
  | requests => "The total number of discovery requests, by type and result"
  | events => "The total number of configuration change events generated"
  | rejected => "The total number of egress rule sets that failed validation"
  | egressRules => "The number of keys in the egress rule cache"
  | endpointSubsets => "The number of clusters in the endpoint subset cache"

/-- No family is left out. -/
theorem mem_all (f : MetricFamily) : f ∈ all := by cases f <;> decide

end MetricFamily

/-! ## Metrics -/

/-- A metric: a family with its labels. -/
inductive Metric where
  | requestTime (type : ResourceType)
  | refreshTime (source : String)
  | requests (type : ResourceType) (succeeded : Bool)
  | events (source : String) (kind : ChangeKind)
  | rejected
  | egressRules
  | endpointSubsets
  deriving DecidableEq, Repr

namespace Metric

/-- The family of a metric. -/
def family : Metric → MetricFamily
  | requestTime _ => .requestTime
  | refreshTime _ => .refreshTime
  | requests _ _ => .requests
  | events _ _ => .events
  | rejected => .rejected
  | egressRules => .egressRules
  | endpointSubsets => .endpointSubsets

/-- The labels of a metric, by name. -/
def labels : Metric → List (String × String)
  | requestTime t => [("xds_type", t.shortName)]
  | refreshTime source => [("source", source)]
  | requests t succeeded =>
    [("result", if succeeded then "ok" else "error"), ("xds_type", t.shortName)]
  | events source kind => [("kind", kind.text), ("source", source)]
  | rejected | egressRules | endpointSubsets => []

/-- A metric's name, with its labels in braces if it has any. -/
def text (m : Metric) : String :=
  match m.labels with
  | [] => m.family.name
  | labels =>
    m.family.name ++ "\x7b" ++ String.intercalate "," (labels.map fun l => l.1 ++ "=" ++ l.2) ++
      "\x7d"

end Metric

/-! ## Readings -/

/-- A change to a reading.  Naming a metric makes it appear with a reading of zero. -/
inductive Measurement where
  | touch (metric : Metric)
  | increment (metric : Metric)
  | set (metric : Metric) (value : Nat)
  deriving DecidableEq, Repr

/-- The readings of the metrics that were touched, each metric once. -/
structure Ledger where
  readings : List (Metric × Nat) := []
  deriving DecidableEq, Repr

namespace Ledger

/-- Changes the reading of a metric, in place, or at the end for one that is new. -/
def adjust (metric : Metric) (f : Nat → Nat) : List (Metric × Nat) → List (Metric × Nat)
  | [] => [(metric, f 0)]
  | (m, n) :: rest => if m = metric then (m, f n) :: rest else (m, n) :: adjust metric f rest

/-- The reading of a metric in a list of readings. -/
def find (metric : Metric) : List (Metric × Nat) → Option Nat
  | [] => none
  | (m, n) :: rest => if m = metric then some n else find metric rest

/-- The reading of a metric, if it was touched. -/
def reading? (l : Ledger) (metric : Metric) : Option Nat := find metric l.readings

/-- The reading of a metric, zero if it was never touched. -/
def reading (l : Ledger) (metric : Metric) : Nat := (l.reading? metric).getD 0

/-- Enters one measurement. -/
def record (l : Ledger) : Measurement → Ledger
  | .touch m => ⟨adjust m id l.readings⟩
  | .increment m => ⟨adjust m (· + 1) l.readings⟩
  | .set m n => ⟨adjust m (fun _ => n) l.readings⟩

/-- After a reading was changed, its metric has the new one, and any other metric what it had. -/
theorem find_adjust (metric m : Metric) (f : Nat → Nat) (l : List (Metric × Nat)) :
    find m (adjust metric f l) =
      if m = metric then some (f ((find metric l).getD 0)) else find m l := by
  induction l with
  | nil => simp [adjust, find, eq_comm]
  | cons e rest ih =>
    by_cases h : e.1 = metric <;> by_cases hm : e.1 = m <;> by_cases hmm : m = metric <;>
      simp_all [adjust, find]

/-- An increment adds one to its metric and nothing to any other. -/
theorem reading_increment (l : Ledger) (metric m : Metric) :
    (l.record (.increment metric)).reading m =
      if m = metric then l.reading metric + 1 else l.reading m := by
  simp only [reading, reading?, record, find_adjust]
  split <;> simp_all

/-- A set metric has its new value, and any other metric what it had. -/
theorem reading_set (l : Ledger) (metric m : Metric) (n : Nat) :
    (l.record (.set metric n)).reading m = if m = metric then n else l.reading m := by
  simp only [reading, reading?, record, find_adjust]
  split <;> simp_all

/-- Touching a metric changes no reading. -/
theorem reading_touch (l : Ledger) (metric m : Metric) :
    (l.record (.touch metric)).reading m = l.reading m := by
  simp only [reading, reading?, record, find_adjust]
  split <;> simp_all

end Ledger

end SidecarAgent.Telemetry
