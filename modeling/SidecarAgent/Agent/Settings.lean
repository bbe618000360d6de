import SidecarAgent.Time.Duration

/-!
# Settings of an agent

What an agent is told when it is started.  Parameters take a value, switches do not; some parameters
can also be given by an environment variable.
-/

namespace SidecarAgent.Agent

open Time (Duration)

/-! ## Arguments -/

/-- A setting that takes a value. -/
inductive Parameter where
  | controlPlane
  | egressBackend
  | egressFile
  | egressRefreshInterval
  | endpointRefreshInterval
  | requestTimeout
  | triggerCapacity
  | metricsAddress
  deriving DecidableEq, Repr

namespace Parameter

/-- Every parameter, in the order in which environment variables are looked at. -/
def all : List Parameter :=
  [controlPlane, egressBackend, egressFile, egressRefreshInterval, endpointRefreshInterval,
    requestTimeout, triggerCapacity, metricsAddress]

/-- The name of a parameter. -/
def name : Parameter → String
  | controlPlane => "control-plane"
  | egressBackend => "egress-backend"
  | egressFile => "egress-file"
  | egressRefreshInterval => "egress-refresh-interval"
  | endpointRefreshInterval => "endpoint-refresh-interval"
  | requestTimeout => "request-timeout"
  | triggerCapacity => "trigger-capacity"
  | metricsAddress => "metrics-addr"

/-- The environment variable that gives a parameter, if there is one. -/
def envName? : Parameter → Option String
  | controlPlane => some "EZMESH_CONTROL_PLANE"
  | egressBackend => some "EZMESH_EGRESS_BACKEND"
  | egressFile => some "EZMESH_EGRESS_FILE"
  | metricsAddress => some "EZMESH_METRICS_ADDR"
  | egressRefreshInterval | endpointRefreshInterval | requestTimeout | triggerCapacity => none

/-- What a parameter is for. -/
def description : Parameter → String
  | controlPlane => "The address of the control plane's discovery service"
  | egressBackend => "Where egress rules come from, one of pilot and file"
  | egressFile => "The egress rule file, which the file backend needs"
  | egressRefreshInterval => "How often to refresh egress rules from the control plane"
  | endpointRefreshInterval => "How often to refresh endpoint subsets from the control plane"
  | requestTimeout => "How long to wait for a single discovery response"
  | triggerCapacity => "How many early refreshes can be asked for before new ones are dropped"
  | metricsAddress => "Where to serve metrics"

/-- No parameter is left out. -/
theorem mem_all (p : Parameter) : p ∈ all := by cases p <;> decide

/-- No two parameters share a name. -/
theorem name_injective {p q : Parameter} (h : p.name = q.name) : p = q := by
  revert h; cases p <;> cases q <;> decide

end Parameter

/-- A setting that is on or off. -/
inductive Switch where
  | logPretty
  | noSubsetTags
  deriving DecidableEq, Repr

namespace Switch

/-- Every switch. -/
def all : List Switch := [logPretty, noSubsetTags]

/-- The name of a switch. -/
def name : Switch → String
  | logPretty => "log-pretty"
  | noSubsetTags => "no-subset-tags"

/-- What a switch is for. -/
def description : Switch → String
  | logPretty => "Write the log for people to read"
  | noSubsetTags => "Give every subset an empty set of tags instead of looking them up"

end Switch

/-- Something that can be given on a command line, and only once. -/
inductive Argument where
  | parameter (p : Parameter)
  | switch (s : Switch)
  deriving DecidableEq, Repr

/-! ## Settings -/

/-- What an agent is told when it is started. -/
structure Settings where
  logPretty : Bool := false
  controlPlane : String := "http://istio-pilot.istio-system:15010"
  egressBackend : String := "pilot"
  egressFile : Option String := none
  egressRefreshInterval : Duration := .ofSeconds 10
  endpointRefreshInterval : Duration := .ofSeconds 30
  requestTimeout : Duration := .ofSeconds 5
  triggerCapacity : Nat := 10
  metricsAddress : Option String := none
  noSubsetTags : Bool := false
  deriving DecidableEq

/-- Turns a switch on. -/
def Settings.turnOn (settings : Settings) : Switch → Settings
  | .logPretty => { settings with logPretty := true }
  | .noSubsetTags => { settings with noSubsetTags := true }

end SidecarAgent.Agent
