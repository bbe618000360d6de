import SidecarAgent.Agent.CommandLine
import SidecarAgent.Agent.Startup
import SidecarAgent.Telemetry.LogFilter
import SidecarAgent.Telemetry.LogLine

/-!
# The program

A run of the program reads its command line, starts an agent, and writes the log entries that its
filter lets through.  It comes to its end on a fault, with a code that says which kind it was; an
agent that is ready goes on for as long as it is let.
-/

namespace SidecarAgent.Agent

open Telemetry (Directive LogEntry LogFilter)

/-! ## Output -/

/-- What is written to standard output: text for people, or log entries for programs. -/
inductive Output where
  | prose (lines : List String)
  | records (entries : List LogEntry)
  deriving DecidableEq

/-- Nothing is written. -/
def Output.isEmpty : Output → Bool
  | prose lines => lines.isEmpty
  | records entries => entries.isEmpty

/-- What a run of the program comes to: its exit code, unless it goes on, its output, and what it
complains about on standard error. -/
structure Run where
  exitCode : Option Nat
  output : Output
  complaints : List String
  deriving DecidableEq

/-! ## The command line -/

/-- The code of a run that did what it was asked. -/
def successCode : Nat := 0

/-- The code of a run whose agent does not start. -/
def refusalCode : Nat := 1

/-- The code of a run whose command line is at fault. -/
def usageCode : Nat := 2

/-- The code of a run that breaks down. -/
def breakdownCode : Nat := 101

/-- The exit code for a command line that does not start an agent. -/
def CommandLineStop.exitCode (stop : CommandLineStop) : Nat :=
  if stop.isRequest then successCode else usageCode

/-- The explanation of the command line. -/
def helpText : List String :=
  ["Configures the sidecar proxy of a service mesh", "", "Options:"] ++
    (Parameter.all.map fun p => "      --" ++ p.name ++ " <VALUE>  " ++ p.description) ++
    (Switch.all.map fun s => "      --" ++ s.name ++ "  " ++ s.description) ++
    ["  -h, --help  Print help", "  -V, --version  Print version"]

/-- The version of the program. -/
def versionText : String := "0.1.0"

/-- What is complained about a command line. -/
def CommandLineStop.message : CommandLineStop → String
  | help | version => ""
  | unknownArgument => "there is an argument that is not known"
  | missingValue => "a value is missing"
  | unreadableValue => "a value cannot be read"
  | repeatedArgument => "an argument is given twice"
  | unexpectedValue => "a value is given to an argument that takes none"

/-- A run that a command line stops. -/
def CommandLineStop.run (stop : CommandLineStop) : Run where
  exitCode := some stop.exitCode
  output := match stop with
    | help => .prose helpText
    | version => .prose [versionText]
    | _ => .records []
  complaints := if stop.isRequest then [] else [stop.message]

/-! ## The log -/

/-- The name of where the program's entries come from. -/
def logOrigin : String := "ezmesh"

/-- The variable that sets the filter of the log. -/
def logFilterVariable : String := "RUST_LOG"

/-- The filter that holds where none is set. -/
def defaultDirective : Directive := .target logOrigin (some .info)

/-- The filter that an environment sets, and the parts of it that make no sense. -/
def logFilter (environment : String → Option String) : LogFilter × List String :=
  LogFilter.parse defaultDirective ((environment logFilterVariable).getD "")

/-- What is written of some entries. -/
def written (settings : Settings) (filter : LogFilter) (entries : List LogEntry) : Output :=
  let shown := entries.filter (filter.lets logOrigin)
  if settings.logPretty then .prose (shown.map fun e => e.plainLine logOrigin) else .records shown

/-- The last entry of a run whose agent refuses to start. -/
def exitEntry (why : StartError) : LogEntry :=
  { level := .error, message := "exiting: " ++ why.message }

/-- What is complained about a part of the filter. -/
def ignoredText (piece : String) : String := "ignoring " ++ piece

/-! ## Runs -/

/-- The run of a start that ended somehow. -/
def Report.run (settings : Settings) (environment : String → Option String) (r : Report) : Run :=
  let (filter, ignored) := logFilter environment
  let entries := Telemetry.logEntries r.notes
  let complaints := ignored.map ignoredText
  match r.ending with
  | .ready _ => ⟨none, written settings filter entries, complaints⟩
  | .refused why =>
    ⟨some refusalCode, written settings filter (entries ++ [exitEntry why]), complaints⟩
  | .broken fault =>
    ⟨some breakdownCode, written settings filter entries, complaints ++ [fault.message]⟩

/-- Runs the program with some arguments, its own name not among them. -/
def run (arguments : List String) (around : Surroundings) : Run :=
  match Settings.parse arguments around.environment with
  | .error stop => stop.run
  | .ok settings => (start settings around).run settings around.environment

end SidecarAgent.Agent
