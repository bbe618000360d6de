/-!
# Spans of time

A span of time is a number of seconds and a number of nanoseconds below one second.  `text` writes
it in the largest of the units s, ms, µs and ns that makes its whole part positive.
-/

namespace SidecarAgent.Time

/-- A span of time. -/
structure Duration where
  seconds : Nat
  nanos : Nat
  nanos_lt : nanos < 1000000000 := by decide
  deriving DecidableEq

namespace Duration

/-- The span of a number of nanoseconds. -/
def ofNanos (n : Nat) : Duration where
  seconds := n / 1000000000
  nanos := n % 1000000000
  nanos_lt := Nat.mod_lt _ (by decide)

/-- The span of a number of microseconds. -/
def ofMicros (n : Nat) : Duration := ofNanos (1000 * n)

/-- The span of a number of seconds. -/
def ofSeconds (n : Nat) : Duration := ⟨n, 0, by decide⟩

/-- A span in nanoseconds. -/
def toNanos (d : Duration) : Nat := 1000000000 * d.seconds + d.nanos

/-- A span in milliseconds, begun ones counted whole. -/
def ceilMillis (d : Duration) : Nat := (d.toNanos + 999999) / 1000000

/-- A number of nanoseconds is kept. -/
@[simp] theorem toNanos_ofNanos (n : Nat) : (ofNanos n).toNanos = n := Nat.div_add_mod n 1000000000

/-- A span is determined by its nanoseconds. -/
theorem ofNanos_toNanos (d : Duration) : ofNanos d.toNanos = d := by
  obtain ⟨s, n, h⟩ := d
  have hdiv : (1000000000 * s + n) / 1000000000 = s := by omega
  have hmod : (1000000000 * s + n) % 1000000000 = n := by omega
  simp [ofNanos, toNanos, hdiv, hmod]

/-! ## Text -/

/-- The digits of `n` at the given number of places, without the zeros at their end. -/
def fractionDigits (places n : Nat) : List Char :=
  let digits := Nat.toDigits 10 n
  let padded := List.replicate (places - digits.length) '0' ++ digits
  (padded.reverse.dropWhile (· = '0')).reverse

/-- A number of units of which `part` in `10 ^ places` are a fraction. -/
def decimalText (whole places part : Nat) : String :=
  if part = 0 then toString whole
  else toString whole ++ "." ++ String.ofList (fractionDigits places part)

/-- A span in its largest unit with a positive whole part, the fraction without zeros at its end. -/
def text (d : Duration) : String :=
  if d.seconds > 0 then decimalText d.seconds 9 d.nanos ++ "s"
  else if d.nanos ≥ 1000000 then decimalText (d.nanos / 1000000) 6 (d.nanos % 1000000) ++ "ms"
  else if d.nanos ≥ 1000 then decimalText (d.nanos / 1000) 3 (d.nanos % 1000) ++ "µs"
  else toString d.nanos ++ "ns"

end Duration

end SidecarAgent.Time
