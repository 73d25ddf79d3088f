/-!
# Durations

A span of time in whole nanoseconds, and its text: the value in the largest unit of which it
holds at least one, with the exact fraction and no trailing zeros.
-/

set_option autoImplicit false

namespace DocumentSql

/-- A span of time. -/
structure Duration where
  /-- Its length in nanoseconds. -/
  nanos : Nat
deriving DecidableEq

namespace Duration

/-- The nanoseconds in a second. -/
def second : Nat := 1000000000

/-- The nanoseconds in a millisecond. -/
def millisecond : Nat := 1000000

/-- The nanoseconds in a microsecond. -/
def microsecond : Nat := 1000

/-- Whole seconds and the nanoseconds beyond them. -/
def ofParts (seconds nanos : Nat) : Duration := ⟨seconds * second + nanos⟩

/-- Whole milliseconds. -/
def ofMillis (n : Nat) : Duration := ⟨n * millisecond⟩

/-- The whole seconds. -/
def seconds (d : Duration) : Nat := d.nanos / second

/-- The nanoseconds beyond the whole seconds. -/
def subsecond (d : Duration) : Nat := d.nanos % second

/-- The fraction `part / 10 ^ places` after a point, or nothing when it is zero. -/
def fraction (part places : Nat) : List Char :=
  if part = 0 then []
  else
    let digits := Nat.toDigits 10 part
    let padded := List.replicate (places - digits.length) '0' ++ digits
    '.' :: (padded.reverse.dropWhile (· = '0')).reverse

/-- A number of nanoseconds in a unit of `10 ^ places` of them. -/
def inUnit (nanos places : Nat) (name : String) : String :=
  let unit := Nat.pow 10 places
  toString (nanos / unit) ++ String.ofList (fraction (nanos % unit) places) ++ name

/-- The text of a duration. -/
def text (d : Duration) : String :=
  if second ≤ d.nanos then inUnit d.nanos 9 "s"
  else if millisecond ≤ d.nanos then inUnit d.nanos 6 "ms"
  else if microsecond ≤ d.nanos then inUnit d.nanos 3 "µs"
  else inUnit d.nanos 0 "ns"

example : (Duration.mk 1000001).text = "1.000001ms" := by decide +kernel

example : (Duration.mk 0).text = "0ns" := by decide +kernel

end Duration

end DocumentSql
