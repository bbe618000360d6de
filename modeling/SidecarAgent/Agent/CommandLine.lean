import SidecarAgent.Agent.Settings
import SidecarAgent.Text.Integer
import SidecarAgent.Time.Written

/-!
# Command lines

The words of a command line are read from left to right, and the first fault decides.  A parameter's
value is attached with an equals sign or is the next word, unless that begins with a hyphen.  A
value in a word of its own stays pending until something else that is known comes, or the line ends;
a word that is not known hides what may be wrong with it.  Environment variables then give what the
line does not.
-/

namespace SidecarAgent.Agent

open Time (Duration)

/-! ## Values -/

/-- Why an agent is not started by a command line: it asks for something else, or it is at fault. -/
inductive CommandLineStop where
  | help
  | version
  | unknownArgument
  | missingValue
  | unreadableValue
  | repeatedArgument
  | unexpectedValue
  deriving DecidableEq, Repr

/-- A stop that was asked for. -/
def CommandLineStop.isRequest : CommandLineStop → Bool
  | help | version => true
  | _ => false

/-- Capacities are below this bound. -/
def capacityBound : Nat := UInt64.size

/-- Reads a span of time. -/
def readDuration (value : String) : Except CommandLineStop Duration :=
  match Duration.parse? value with
  | some d => .ok d
  | none => .error .unreadableValue

/-- Reads a capacity. -/
def readCapacity (value : String) : Except CommandLineStop Nat :=
  match Text.naturalBelow? capacityBound value.toList with
  | some n => .ok n
  | none => .error .unreadableValue

/-- Reads a path.  An empty path counts as none. -/
def readPath (value : String) : Except CommandLineStop String :=
  if value = "" then .error .missingValue else .ok value

/-- Gives a parameter a value. -/
def Settings.set (settings : Settings) (p : Parameter) (value : String) :
    Except CommandLineStop Settings :=
  match p with
  | .controlPlane => .ok { settings with controlPlane := value }
  | .egressBackend => .ok { settings with egressBackend := value }
  | .metricsAddress => .ok { settings with metricsAddress := some value }
  | .egressFile => (readPath value).map fun path => { settings with egressFile := some path }
  | .egressRefreshInterval =>
    (readDuration value).map fun d => { settings with egressRefreshInterval := d }
  | .endpointRefreshInterval =>
    (readDuration value).map fun d => { settings with endpointRefreshInterval := d }
  | .requestTimeout => (readDuration value).map fun d => { settings with requestTimeout := d }
  | .triggerCapacity => (readCapacity value).map fun n => { settings with triggerCapacity := n }

/-! ## Words -/

/-- What a word of a command line is by its form: a long name, perhaps with a value, a short one,
the mark that no more names follow, or anything else. -/
inductive Word where
  | long (name : String) (value : Option String)
  | short (letter : Char)
  | endOfNames
  | plain (text : String)
  deriving DecidableEq, Repr

/-- Splits a long name from the value attached to it. -/
def splitAttached (cs : List Char) : Word :=
  let name := String.ofList (cs.takeWhile (· ≠ '='))
  match cs.dropWhile (· ≠ '=') with
  | [] => .long name none
  | _ :: value => .long name (some (String.ofList value))

/-- The form of a word.  A hyphen alone is plain; of short names only the first counts. -/
def Word.ofText (text : String) : Word :=
  match text.toList with
  | ['-', '-'] => .endOfNames
  | '-' :: '-' :: cs => splitAttached cs
  | '-' :: letter :: _ => .short letter
  | _ => .plain text

/-- What a name stands for. -/
inductive Named where
  | parameter (p : Parameter)
  | switch (s : Switch)
  | help
  | version
  deriving DecidableEq, Repr

/-- What a long name stands for. -/
def Named.ofLong? (name : String) : Option Named :=
  if name = "help" then some .help
  else if name = "version" then some .version
  else
    ((Parameter.all.find? fun p => p.name = name).map .parameter).or
      ((Switch.all.find? fun s => s.name = name).map .switch)

/-- What a short name stands for. -/
def Named.ofShort? : Char → Option Named
  | 'h' => some .help
  | 'V' => some .version
  | _ => none

/-! ## Reading -/

/-- A parameter that was named last, with its value if that has come. -/
structure Pending where
  parameter : Parameter
  value : Option String

/-- How far a command line is read: the settings so far, what was given, and what is pending. -/
structure Progress where
  settings : Settings := {}
  given : List Argument := []
  pending : Option Pending := none

namespace Progress

/-- Notes that an argument is given, which it may be once. -/
def give (p : Progress) (argument : Argument) : Except CommandLineStop Progress :=
  if p.given.contains argument then .error .repeatedArgument
  else .ok { p with given := argument :: p.given }

/-- Gives a parameter a value. -/
def assign (p : Progress) (parameter : Parameter) (value : String) :
    Except CommandLineStop Progress := do
  let p ← p.give (.parameter parameter)
  let settings ← p.settings.set parameter value
  return { p with settings := settings }

/-- Settles what is pending. -/
def settle (p : Progress) : Except CommandLineStop Progress :=
  match p.pending with
  | none => .ok p
  | some ⟨parameter, some value⟩ => { p with pending := none }.assign parameter value
  | some ⟨_, none⟩ => .error .missingValue

/-- Takes a name, perhaps with a value attached.  Only a parameter may have one. -/
def takeNamed (p : Progress) (named : Named) (attached : Option String) :
    Except CommandLineStop Progress :=
  match named, attached with
  | .parameter q, none => do return { ← p.settle with pending := some ⟨q, none⟩ }
  | .parameter q, some value => do (← p.settle).assign q value
  | .switch s, none => do
    let p ← (← p.settle).give (.switch s)
    return { p with settings := p.settings.turnOn s }
  | .help, none => do
    let _ ← p.settle
    throw .help
  | .version, none => do
    let _ ← p.settle
    throw .version
  | .switch _, some _ | .help, some _ | .version, some _ => .error .unexpectedValue

/-- Takes a word that is no name: the value that is waited for, or nothing known. -/
def takePlain (p : Progress) (text : String) : Except CommandLineStop Progress :=
  match p.pending with
  | some ⟨q, none⟩ => .ok { p with pending := some ⟨q, some text⟩ }
  | _ => .error .unknownArgument

/-- Reads some words. -/
def readWords (p : Progress) : List Word → Except CommandLineStop Progress
  | [] => p.settle
  | .endOfNames :: [] => p.settle
  | .endOfNames :: _ => .error .unknownArgument
  | .plain text :: rest => do readWords (← p.takePlain text) rest
  | .long name attached :: rest =>
    match Named.ofLong? name with
    | some named => do readWords (← p.takeNamed named attached) rest
    | none => .error .unknownArgument
  | .short letter :: rest =>
    match Named.ofShort? letter with
    | some named => do readWords (← p.takeNamed named none) rest
    | none => .error .unknownArgument

/-- Takes the variable of a parameter that was not given. -/
def takeVariable (environment : String → Option String) (p : Progress) (parameter : Parameter) :
    Except CommandLineStop Progress :=
  if p.given.contains (.parameter parameter) then .ok p
  else
    match parameter.envName?.bind environment with
    | some value => p.assign parameter value
    | none => .ok p

end Progress

/-- Reads a command line, without the name of the program, and the environment variables that give
settings. -/
def Settings.parse (arguments : List String) (environment : String → Option String) :
    Except CommandLineStop Settings := do
  let p ← Progress.readWords {} (arguments.map Word.ofText)
  let p ← Parameter.all.foldlM (Progress.takeVariable environment) p
  return p.settings

end SidecarAgent.Agent
