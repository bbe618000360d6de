import SidecarAgent.Text.Blank
import SidecarAgent.Text.Integer
import SidecarAgent.Time.Duration

/-!
# Written spans of time

A span is written as a sequence of amounts, which add up.  An amount is a number, possibly with
decimals, and a unit; only a lone zero needs no unit.  Blanks may stand anywhere but inside a unit.
Decimals of an amount that is counted in seconds are cut to whole seconds.
-/

namespace SidecarAgent.Time

open Text (isBlank)

/-! ## Units -/

/-- A unit of time. -/
inductive TimeUnit where
  | nanosecond
  | microsecond
  | millisecond
  | second
  | minute
  | hour
  | day
  | week
  | month
  | year
  deriving DecidableEq, Repr

namespace TimeUnit

/-- Every unit. -/
def all : List TimeUnit :=
  [nanosecond, microsecond, millisecond, second, minute, hour, day, week, month, year]

/-- The names of a unit. -/
def names : TimeUnit → List String
  | nanosecond => ["nanos", "nsec", "ns"]
  | microsecond => ["usec", "us", "µs"]
  | millisecond => ["millis", "msec", "ms"]
  | second => ["seconds", "second", "secs", "sec", "s"]
  | minute => ["minutes", "minute", "min", "mins", "m"]
  | hour => ["hours", "hour", "hr", "hrs", "h"]
  | day => ["days", "day", "d"]
  | week => ["weeks", "week", "wk", "wks", "w"]
  | month => ["months", "month", "M"]
  | year => ["years", "year", "yr", "yrs", "y"]

/-- The unit of a name. -/
def ofName? (name : String) : Option TimeUnit := all.find? fun u => u.names.contains name

/-- How many nanoseconds a unit below the second has, or how many seconds another one.  A month has
30.44 days, and a year has 365.25. -/
def scale : TimeUnit → Nat
  | nanosecond => 1
  | microsecond => 1000
  | millisecond => 1000000
  | second => 1
  | minute => 60
  | hour => 3600
  | day => 86400
  | week => 604800
  | month => 2630016
  | year => 31557600

/-- A unit below the second. -/
def isBelowSecond : TimeUnit → Bool
  | nanosecond | microsecond | millisecond => true
  | _ => false

/-- The unit in nanoseconds if its decimals are counted in nanoseconds. -/
def decimalScale? : TimeUnit → Option Nat
  | nanosecond => some 1
  | microsecond => some 1000
  | millisecond => some 1000000
  | second => some 1000000000
  | minute => some 60000000000
  | _ => none

end TimeUnit

/-! ## Amounts -/

/-- Numbers are below this bound wherever they occur. -/
def numberBound : Nat := UInt64.size

/-- A number within the bound. -/
def bounded? (n : Nat) : Option Nat := if n < numberBound then some n else none

/-- An amount: a whole number, decimals as digits if there are some, and a unit. -/
structure Amount where
  whole : Nat
  decimals : List Char
  unit : TimeUnit

namespace Duration

/-- A span with some seconds and nanoseconds more. -/
def add? (d : Duration) (seconds nanos : Nat) : Option Duration := do
  let nanos ← bounded? (d.nanos + nanos)
  let sum := ofNanos (1000000000 * (d.seconds + seconds) + nanos)
  if sum.seconds < numberBound then some sum else none

/-- A span with the whole part of an amount more. -/
def addWhole? (d : Duration) (a : Amount) : Option Duration := do
  let n ← bounded? (a.whole * a.unit.scale)
  if a.unit.isBelowSecond then d.add? 0 n else d.add? n 0

/-- A span with the decimals of an amount more. -/
def addDecimals? (d : Duration) (a : Amount) : Option Duration :=
  match Text.natural? a.decimals with
  | none => some d
  | some n => do
    let denominator ← bounded? (Nat.pow 10 a.decimals.length)
    match a.unit.decimalScale? with
    | some scale => d.add? 0 ((← bounded? (n * scale)) / denominator)
    | none => d.add? ((← bounded? (n * a.unit.scale)) / denominator) 0

/-- A span with an amount more. -/
def addAmount? (d : Duration) (a : Amount) : Option Duration := do
  (← d.addWhole? a).addDecimals? a

end Duration

/-! ## Reading -/

/-- A character of a number: a digit or a blank. -/
def isNumberChar (c : Char) : Bool := c.isDigit || isBlank c

/-- A character of a unit's name. -/
def isUnitChar (c : Char) : Bool :=
  ('a' ≤ c && c ≤ 'z') || ('A' ≤ c && c ≤ 'Z') || c = 'µ'

/-- The digits that a text begins with, blanks left out, and what follows. -/
def digitRun (cs : List Char) : List Char × List Char :=
  ((cs.takeWhile isNumberChar).filter Char.isDigit, cs.dropWhile isNumberChar)

/-- Reads the decimals behind a number, if there are some. -/
def decimals? : List Char → Option (List Char × List Char)
  | '.' :: rest =>
    let (digits, rest) := digitRun rest
    if digits.isEmpty then none else some (digits, rest)
  | cs => some ([], cs)

/-- Reads an amount.  Gives the blanks behind it back with the rest. -/
def amount? (cs : List Char) : Option (Amount × List Char) := do
  let (digits, rest) := digitRun cs
  let whole ← bounded? (← Text.natural? digits)
  let (decimals, rest) ← decimals? rest
  let unit ← TimeUnit.ofName? (String.ofList (rest.takeWhile isUnitChar))
  some (⟨whole, decimals, unit⟩, rest.dropWhile isUnitChar)

/-- Adds the amounts of a text up, one in each step.  A text has no more of them than characters. -/
def sum? : (steps : Nat) → Duration → List Char → Option Duration
  | 0, _, _ => none
  | steps + 1, d, cs =>
    match cs.dropWhile isBlank with
    | [] => some d
    | c :: rest =>
      if c.isDigit then
        match amount? (c :: rest) with
        | some (a, rest) => (d.addAmount? a).bind fun d => sum? steps d rest
        | none => none
      else none

/-- Reads a written span. -/
def Duration.parse? (text : String) : Option Duration :=
  let cs := text.toList
  if text = "0" then some (.ofSeconds 0)
  else if cs.all isBlank then none
  else sum? (cs.length + 1) (.ofSeconds 0) cs

end SidecarAgent.Time
