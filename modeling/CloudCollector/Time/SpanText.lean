import CloudCollector.Text.Blank
import CloudCollector.Time.Basic

/-!
# Spans in words

Configuration writes a span as numbers with units, such as `1h 30m`. The reader accepts several
names of each unit, white space around numbers, and decimal fractions that come out even in
nanoseconds, or in whole seconds for units from the hour up. The writer uses one name of each
unit and the largest units first. A message shows a span shorter, as one decimal number.
-/

namespace CloudCollector.Span

/-- A unit of time in configuration text. -/
inductive TimeUnit where
  | nanosecond
  | microsecond
  | millisecond
  | second
  | minute
  | hour
  | day
  | week
  | month
  | year
  deriving DecidableEq

namespace TimeUnit

/-- The length of a unit in nanoseconds. A month is a twelfth of a year, a year 365 days and a
quarter. -/
def nanos : TimeUnit → Nat
  | nanosecond => 1
  | microsecond => 1000
  | millisecond => 1000000
  | second => nanosPerSecond
  | minute => 60 * nanosPerSecond
  | hour => 3600 * nanosPerSecond
  | day => 86400 * nanosPerSecond
  | week => 604800 * nanosPerSecond
  | month => 2630016 * nanosPerSecond
  | year => 31557600 * nanosPerSecond

/-- Whether the whole part of a number of units is counted in seconds. -/
def countsSeconds : TimeUnit → Bool
  | nanosecond | microsecond | millisecond => false
  | _ => true

/-- Whether the fraction of a unit is counted in seconds. -/
def splitsSeconds : TimeUnit → Bool
  | hour | day | week | month | year => true
  | _ => false

/-- The unit with the given name. -/
def ofName? (name : String) : Option TimeUnit :=
  if ["nanos", "nsec", "ns"].contains name then some nanosecond
  else if ["usec", "us", "µs"].contains name then some microsecond
  else if ["millis", "msec", "ms"].contains name then some millisecond
  else if ["seconds", "second", "secs", "sec", "s"].contains name then some second
  else if ["minutes", "minute", "min", "mins", "m"].contains name then some minute
  else if ["hours", "hour", "hrs", "hr", "h"].contains name then some hour
  else if ["days", "day", "d"].contains name then some day
  else if ["weeks", "week", "wks", "wk", "w"].contains name then some week
  else if ["months", "month", "M"].contains name then some month
  else if ["years", "year", "yrs", "yr", "y"].contains name then some year
  else none

end TimeUnit

/-! ## Reading -/

/-- A number below the bound of 64 bits. -/
def word? (n : Nat) : Option Nat :=
  if n < 18446744073709551616 then some n else none

/-- Whether a character may stand in the name of a unit. -/
def isUnitChar (c : Char) : Bool :=
  ('a' ≤ c && c ≤ 'z') || ('A' ≤ c && c ≤ 'Z') || c == 'µ'

/-- The value of a digit. -/
def digitValue (c : Char) : Nat :=
  c.toNat - '0'.toNat

/-- A decimal fraction. -/
structure Fraction where
  numerator : Nat
  denominator : Nat

/-- Reads the digits of a number after the ones that make up `n`, with white space between them,
up to a point, the name of a unit or the end. -/
def readWhole (n : Nat) : List Char → Option (Nat × List Char)
  | [] => some (n, [])
  | c :: rest =>
    if c.isDigit then (word? (10 * n + digitValue c)).bind fun n => readWhole n rest
    else if Text.isBlank c then readWhole n rest
    else if isUnitChar c || c == '.' then some (n, c :: rest)
    else none

/-- Reads the digits after a point, with white space between them. -/
def readFraction (f : Fraction) : List Char → Option (Fraction × List Char)
  | [] => some (f, [])
  | c :: rest =>
    if c.isDigit then
      match word? (10 * f.numerator + digitValue c), word? (10 * f.denominator) with
      | some numerator, some denominator => readFraction ⟨numerator, denominator⟩ rest
      | _, _ => none
    else if Text.isBlank c then readFraction f rest
    else if isUnitChar c then some (f, c :: rest)
    else none

/-- `f` times `factor`, if the product with the numerator has 64 bits and the quotient is
whole. -/
def Fraction.of? (f : Fraction) (factor : Nat) : Option Nat := do
  let product ← word? (f.numerator * factor)
  if product % f.denominator = 0 then some (product / f.denominator) else none

/-- Adds seconds and nanoseconds to a number of nanoseconds, as far as 64 bits hold the seconds
and the nanoseconds beside them. -/
def accumulate (total seconds nanos : Nat) : Option Nat := do
  let beside ← word? (total % nanosPerSecond + nanos)
  let _ ← word? (seconds + beside / nanosPerSecond)
  let sum := total + seconds * nanosPerSecond + nanos
  if sum < 18446744073709551616 * nanosPerSecond then some sum else none

/-- Adds a number of units to a number of nanoseconds. -/
def addUnits (total n : Nat) (f : Option Fraction) (unit : TimeUnit) : Option Nat := do
  let total ←
    if unit.countsSeconds then accumulate total (← word? (n * (unit.nanos / nanosPerSecond))) 0
    else accumulate total 0 (← word? (n * unit.nanos))
  match f with
  | none => return total
  | some f =>
    if unit = .nanosecond then none
    else if unit.splitsSeconds then
      accumulate total (← f.of? (unit.nanos / nanosPerSecond)) 0
    else accumulate total 0 (← f.of? unit.nanos)

/-- The number that a group begins with, up to the name of its unit. -/
def readNumber (first : Char) (rest : List Char) : Option (Nat × Option Fraction × List Char) :=
  match readWhole (digitValue first) rest with
  | some (n, '.' :: rest) =>
    match readFraction ⟨0, 1⟩ rest with
    | some (f, rest) => if f.denominator = 1 then none else some (n, some f, rest)
    | none => none
  | some (n, rest) => some (n, none, rest)
  | none => none

/-- Reads groups of a number and a unit. A unit ends at white space or at the next number. -/
def readGroups (total : Nat) : (fuel : Nat) → List Char → Option Nat
  | 0, _ => none
  | fuel + 1, cs =>
    match Text.trimStart cs with
    | [] => some total
    | first :: rest =>
      if first.isDigit then
        match readNumber first rest with
        | none => none
        | some (n, f, rest) =>
          let name := rest.takeWhile isUnitChar
          let rest := rest.dropWhile isUnitChar
          let ends := match rest with
            | [] => true
            | c :: _ => c.isDigit || Text.isBlank c
          match ends, TimeUnit.ofName? (String.ofList name) with
          | true, some unit =>
            match addUnits total n f unit with
            | some total => readGroups total fuel rest
            | none => none
          | _, _ => none
      else none

/-- Reads a span. A lone `0` needs no unit, and white space alone is no span. -/
def parse? (text : String) : Option Span :=
  if text = "0" then some .zero
  else
    match Text.trimStart text.toList with
    | [] => none
    | cs => (readGroups 0 (cs.length + 1) cs).bind ofNanos?

/-! ## Writing -/

/-- A part of a written span: a number, the name of its unit and whether the name changes in the
plural. A part of no units is left out. -/
def part (n : Nat) (name : String) (plural : Bool) : List String :=
  if n = 0 then []
  else [toString n ++ name ++ (if plural && 1 < n then "s" else "")]

/-- The parts of a written span, from the largest unit to the smallest. -/
def parts (d : Span) : List String :=
  let years := d.seconds / 31557600
  let inYear := d.seconds % 31557600
  let months := inYear / 2630016
  let inMonth := inYear % 2630016
  let inDay := inMonth % 86400
  part years "year" true ++ part months "month" true ++ part (inMonth / 86400) "day" true ++
    part (inDay / 3600) "h" false ++ part (inDay % 3600 / 60) "m" false ++
    part (inDay % 60) "s" false ++ part (d.subsecNanos / 1000000) "ms" false ++
    part (d.subsecNanos / 1000 % 1000) "us" false ++ part (d.subsecNanos % 1000) "ns" false

/-- Writes a span in words. -/
def render (d : Span) : String :=
  if d.nanos = 0 then "0s" else " ".intercalate d.parts

/-- Writes `whole` and a fraction of `places` decimal places, without zeros at the end. -/
def decimalText (whole fraction places : Nat) (unit : String) : String :=
  let digits := Nat.toDigits 10 fraction
  let padded := List.replicate (places - digits.length) '0' ++ digits
  let shown := (padded.reverse.dropWhile (· == '0')).reverse
  toString whole ++ (if shown.isEmpty then "" else "." ++ String.ofList shown) ++ unit

/-- Shows a span as one decimal number of the largest unit from the second down that it reaches. -/
def short (d : Span) : String :=
  if 0 < d.seconds then decimalText d.seconds d.subsecNanos 9 "s"
  else if 1000000 ≤ d.nanos then decimalText (d.nanos / 1000000) (d.nanos % 1000000) 6 "ms"
  else if 1000 ≤ d.nanos then decimalText (d.nanos / 1000) (d.nanos % 1000) 3 "µs"
  else decimalText d.nanos 0 0 "ns"

end CloudCollector.Span
