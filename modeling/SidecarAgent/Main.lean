import SidecarAgent.Agent.Program

/-!
# The command line program

Looks at what surrounds the program, runs it, and writes what it has to say.  No connection is made:
an agent that is ready finds nobody at the address of its control plane, and waits.
-/

namespace SidecarAgent

open Agent (Output Run Surroundings)

/-- The environment variables that an agent looks at. -/
def variableNames : List String :=
  ["POD_NAME", "POD_NAMESPACE", "NAMESPACE", "INSTANCE_IP", Agent.logFilterVariable] ++
    Agent.Parameter.all.filterMap Agent.Parameter.envName?

/-- The variable that names the file for cluster access. -/
def clusterConfigVariable : String := "KUBECONFIG"

/-- The bytes of a file, if it can be read. -/
def readBytes (path : String) : IO (Option (List UInt8)) := do
  try
    return some (← IO.FS.readBinFile path).toList
  catch _ => return none

/-- The environment, as far as an agent looks at it. -/
def readEnvironment : IO (String → Option String) := do
  let values ← variableNames.mapM fun name => do return (name, ← IO.getEnv name)
  return fun name => (values.lookup name).join

/-- What surrounds a run with some arguments. -/
def lookAround (arguments : List String) : IO Surroundings := do
  let environment ← readEnvironment
  let path := match Agent.Settings.parse arguments environment with
    | .ok settings => settings.egressFile
    | .error _ => none
  let rules ← path.mapM readBytes
  let access ← (← IO.getEnv clusterConfigVariable).mapM readBytes
  let now := Time.Duration.ofNanos (← IO.monoNanosNow)
  return { environment := environment, file := fun _ => rules.join, clusterConfig := access.join
           egressClock := now, endpointClock := now }

/-- The lines of an output. -/
def Agent.Output.lines : Output → List String
  | .prose lines => lines
  | .records entries => entries.map fun e => e.jsonLine logOrigin

/-- Waits for as long as the program is let. -/
partial def waitForever : IO Unit := do
  IO.sleep 1000
  waitForever

end SidecarAgent

/-- Runs the program. -/
def main (arguments : List String) : IO UInt32 := do
  let r := SidecarAgent.Agent.run arguments (← SidecarAgent.lookAround arguments)
  for line in r.output.lines do IO.println line
  for complaint in r.complaints do IO.eprintln complaint
  match r.exitCode with
  | some code => return UInt32.ofNat code
  | none =>
    SidecarAgent.waitForever
    return 0
