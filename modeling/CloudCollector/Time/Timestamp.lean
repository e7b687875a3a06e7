import CloudCollector.Text.Blank
import CloudCollector.Time.Calendar

/-!
# Timestamps

Telemetry gives a time as a date and a time of day, with a zone or in universal time. A time with
a zone has fixed widths, as RFC 3339 demands; a time without one may have shorter fields and
white space in front of them. Delivered metrics carry their time in universal time, to the
millisecond.
-/

namespace CloudCollector.Instant

/-! ## Reading -/

/-- Reads at least `least` and at most `most` digits as a number. -/
def readNumber (least most : Nat) (cs : List Char) : Option (Nat × List Char) :=
  let digits := (cs.take most).takeWhile Char.isDigit
  if digits.length < least then none
  else some (digits.foldl (fun n c => 10 * n + (c.toNat - '0'.toNat)) 0, cs.drop digits.length)

/-- Reads the given character. -/
def readChar (c : Char) : List Char → Option (List Char)
  | d :: rest => if c = d then some rest else none
  | [] => none

/-- Reads a fraction of a second in nanoseconds, if a point begins one. Digits after the ninth
have no effect. -/
def readNanos : List Char → Option (Nat × List Char)
  | '.' :: rest =>
    match readNumber 1 9 rest with
    | some (n, after) =>
      some (n * Nat.pow 10 (9 - (rest.length - after.length)), after.dropWhile Char.isDigit)
    | none => none
  | rest => some (0, rest)

/-- The instant of a date and a time of day that is `offset` seconds ahead of universal time. The
sixtieth second of a minute is the first of the next. -/
def ofCivil? (date : Date) (hour minute second nanos : Nat) (offset : Int) : Option Instant :=
  if date.isValid && hour < 24 && minute < 60 && second ≤ 60 then
    ofParts? (date.toDays * 86400 + hour * 3600 + minute * 60 + second - offset) nanos
  else none

/-- Reads the zone of a time: how many seconds it is ahead of universal time. -/
def readZone (cs : List Char) : Option (Int × List Char) := do
  let (sign, rest) ← match cs with
    | 'Z' :: rest | 'z' :: rest => some ((0 : Int), rest)
    | '+' :: rest => some (1, rest)
    | '-' :: rest => some (-1, rest)
    | c :: rest => if c.toNat = 0x2212 then some (-1, rest) else none
    | [] => none
  if sign = 0 then return (0, rest)
  let (hours, rest) ← readNumber 2 2 rest
  let (minutes, rest) ← readNumber 2 2 (← readChar ':' rest)
  if hours < 24 ∧ minutes < 60 then return (sign * (hours * 3600 + minutes * 60), rest) else none

/-- Reads a time with a zone. -/
def parseZoned? (cs : List Char) : Option Instant := do
  let (year, rest) ← readNumber 4 4 cs
  let (month, rest) ← readNumber 2 2 (← readChar '-' rest)
  let (day, rest) ← readNumber 2 2 (← readChar '-' rest)
  let rest ← match rest with
    | 'T' :: rest | 't' :: rest | ' ' :: rest => some rest
    | _ => none
  let (hour, rest) ← readNumber 2 2 rest
  let (minute, rest) ← readNumber 2 2 (← readChar ':' rest)
  let (second, rest) ← readNumber 2 2 (← readChar ':' rest)
  let (nanos, rest) ← readNanos rest
  let (offset, rest) ← readZone rest
  if rest.isEmpty then ofCivil? ⟨year, month, day⟩ hour minute second nanos offset else none

/-- Reads a year, with white space in front of it. A year with a sign may have any number of
digits. -/
def readYear (cs : List Char) : Option (Int × List Char) :=
  match Text.trimStart cs with
  | '-' :: rest => (readNumber 1 rest.length rest).map fun (n, rest) => (-n, rest)
  | '+' :: rest => (readNumber 1 rest.length rest).map fun (n, rest) => (n, rest)
  | rest => (readNumber 1 4 rest).map fun (n, rest) => (n, rest)

/-- Reads a field of one or two digits, with white space in front of it. -/
def readField (cs : List Char) : Option (Nat × List Char) :=
  readNumber 1 2 (Text.trimStart cs)

/-- The range of years of a time without a zone. -/
def isCalendarYear (year : Int) : Bool :=
  -262143 ≤ year && year ≤ 262142

/-- Reads a time without a zone, in universal time, where `separator` reads what stands between
the date and the time of day. -/
def parseUniversal? (separator : List Char → Option (List Char)) (cs : List Char) :
    Option Instant := do
  let (year, rest) ← readYear cs
  let (month, rest) ← readField (← readChar '-' rest)
  let (day, rest) ← readField (← readChar '-' rest)
  let (hour, rest) ← readField (← separator rest)
  let (minute, rest) ← readField (← readChar ':' rest)
  let (second, rest) ← readField (← readChar ':' rest)
  let (nanos, rest) ← readNanos rest
  if rest.isEmpty && isCalendarYear year then
    ofCivil? ⟨year, month, day⟩ hour minute second nanos 0
  else none

/-- Reads a timestamp: a time with a zone, or else one in universal time with a `T` or white
space between the date and the time of day. -/
def parse? (text : String) : Option Instant :=
  let cs := Text.trim text.toList
  parseZoned? cs <|> parseUniversal? (readChar 'T') cs <|> parseUniversal? some cs

/-! ## Writing -/

/-- A number with zeros in front up to a width. -/
def padded (width n : Nat) : List Char :=
  let digits := Nat.toDigits 10 n
  List.replicate (width - digits.length) '0' ++ digits

/-- A year of four digits, or with a sign when it lies outside of the years 0 to 9999. -/
def yearText (year : Int) : List Char :=
  if 0 ≤ year ∧ year ≤ 9999 then padded 4 year.toNat
  else (if year < 0 then '-' else '+') :: padded 4 year.natAbs

/-- Writes an instant in universal time, rounded down to the millisecond. -/
def dateTime (t : Instant) : String :=
  let date := Date.ofDays (t.seconds / 86400)
  let second := (t.seconds % 86400).toNat
  String.ofList (yearText date.year ++ '-' :: padded 2 date.month ++ '-' :: padded 2 date.day ++
    ' ' :: padded 2 (second / 3600) ++ ':' :: padded 2 (second / 60 % 60) ++
    ':' :: padded 2 (second % 60) ++ '.' :: padded 3 (t.subsecNanos / 1000000))

end CloudCollector.Instant
