import CloudCollector.Json.Basic

/-!
# Outlines of JSON text

An outline is what a text shows to a reader that goes through it from front to back: the values
in the order in which they are written, up to the first place where the text breaks. A typed
reader that stops at the first fault finds it by walking an outline, whether that fault is a
break of the text or a value of the wrong kind. A whole value is read by `Json.read?`.
-/

namespace CloudCollector.Json

/-- JSON text as far as it can be read. -/
inductive Outline where
  | null
  | bool (value : Bool)
  /-- A number, without a value when it is too large for a double. -/
  | number (value : Option Number)
  /-- A string, without a value when its escapes do not spell characters. -/
  | string (value : Option String)
  | array (items : List Outline)
  | object (members : List (Outline × Outline))
  /-- The text breaks here. -/
  | broken

/-- White space between tokens. -/
def isGap (c : Char) : Bool :=
  c == ' ' || c == '\n' || c == '\t' || c == '\r'

/-- The value of a hexadecimal digit. -/
def hexDigit? (c : Char) : Option Nat :=
  if '0' ≤ c ∧ c ≤ '9' then some (c.toNat - '0'.toNat)
  else if 'a' ≤ c ∧ c ≤ 'f' then some (c.toNat - 'a'.toNat + 10)
  else if 'A' ≤ c ∧ c ≤ 'F' then some (c.toNat - 'A'.toNat + 10)
  else none

/-- The number that hexadecimal digits spell. -/
def hexNumber? (cs : List Char) : Option Nat :=
  cs.foldl (fun n? c => do return 16 * (← n?) + (← hexDigit? c)) (some 0)

/-- The character that a letter after a backslash stands for. -/
def escapedBy? : Char → Option Char
  | '"' => some '"'
  | '\\' => some '\\'
  | '/' => some '/'
  | 'b' => some '\x08'
  | 'f' => some '\x0c'
  | 'n' => some '\n'
  | 'r' => some '\r'
  | 't' => some '\t'
  | _ => none

/-- Reads a string after its opening quote, as code points in which halves of surrogate pairs
stand by themselves, and what follows the closing quote. -/
def readUnits (read : List Nat) : List Char → Option (List Nat × List Char)
  | [] => none
  | '"' :: rest => some (read.reverse, rest)
  | '\\' :: 'u' :: a :: b :: c :: d :: rest =>
    match hexNumber? [a, b, c, d] with
    | some unit => readUnits (unit :: read) rest
    | none => none
  | '\\' :: c :: rest =>
    match escapedBy? c with
    | some c => readUnits (c.toNat :: read) rest
    | none => none
  | c :: rest => if c.toNat < 32 then none else readUnits (c.toNat :: read) rest

/-- Joins the halves of surrogate pairs; a half without the other spells no character. -/
def joinUnits (read : List Char) : List Nat → Option (List Char)
  | [] => some read.reverse
  | [unit] =>
    if 0xD800 ≤ unit ∧ unit < 0xE000 then none else some (Char.ofNat unit :: read).reverse
  | unit :: next :: rest =>
    if 0xD800 ≤ unit ∧ unit < 0xDC00 then
      if 0xDC00 ≤ next ∧ next < 0xE000 then
        joinUnits (Char.ofNat (0x10000 + (unit - 0xD800) * 0x400 + (next - 0xDC00)) :: read) rest
      else none
    else if 0xDC00 ≤ unit ∧ unit < 0xE000 then none
    else joinUnits (Char.ofNat unit :: read) (next :: rest)

/-- Reads the digits in front. -/
def readDigits (cs : List Char) : List Char × List Char :=
  (cs.takeWhile Char.isDigit, cs.dropWhile Char.isDigit)

/-- The number that decimal digits spell. -/
def digitsValue (digits : List Char) : Nat :=
  digits.foldl (fun n c => 10 * n + (c.toNat - '0'.toNat)) 0

/-- Reads the exponent of a number, if there is one. An exponent without digits breaks the
text. -/
def readExponent : List Char → Option (Option Int × List Char)
  | e :: rest =>
    if e = 'e' ∨ e = 'E' then
      let (negative, rest) := match rest with
        | '+' :: rest => (false, rest)
        | '-' :: rest => (true, rest)
        | rest => (false, rest)
      match readDigits rest with
      | ([], _) => none
      | (digits, rest) =>
        let n : Int := digitsValue digits
        some (some (if negative then -n else n), rest)
    else some (none, e :: rest)
  | [] => some (none, [])

/-- The number with the given sign and integer, where what exceeds 64 bits is a double, and so is
a negative zero. -/
def integerNumber (negative : Bool) (n : Nat) : Number :=
  if negative then
    if 0 < n ∧ n ≤ 9223372036854775808 then .int (-n) else .real (.ofRatio true n 1)
  else if n < 18446744073709551616 then .int n
  else .real (.ofRatio false n 1)

/-- A number, unless it is too large for a double. -/
def finiteNumber? (n : Number) : Option Number :=
  match n with
  | .real (.infinite _) => none
  | n => some n

/-- Reads a number without its sign. -/
def readMagnitude (negative : Bool) (cs : List Char) : Option (Option Number × List Char) :=
  match readDigits cs with
  | ([], _) => none
  | (whole, rest) =>
    if 1 < whole.length ∧ whole.head? = some '0' then none
    else
      let fraction? : Option (Option (List Char) × List Char) := match rest with
        | '.' :: rest =>
          match readDigits rest with
          | ([], _) => none
          | (digits, rest) => some (some digits, rest)
        | rest => some (none, rest)
      match fraction? with
      | none => none
      | some (fraction, rest) =>
        match readExponent rest with
        | none => none
        | some (exponent, rest) =>
          if fraction.isNone ∧ exponent.isNone then
            some (finiteNumber? (integerNumber negative (digitsValue whole)), rest)
          else
            let fraction := fraction.getD []
            let value := Binary64.ofDecimal negative (digitsValue (whole ++ fraction))
              (exponent.getD 0 - fraction.length)
            some (finiteNumber? (.real value), rest)

/-- Reads a number. -/
def readNumber : List Char → Option (Option Number × List Char)
  | '-' :: rest => readMagnitude true rest
  | cs => readMagnitude false cs

/-- Reads a string after its opening quote. -/
def readString (cs : List Char) : Option (Option String × List Char) :=
  (readUnits [] cs).map fun (units, rest) => ((joinUnits [] units).map String.ofList, rest)

mutual

/-- Reads one value; the rest is missing where the text breaks. Every call reads at least one
character before the next, so `fuel` may be bounded by the length of the text. -/
def readOutline : (fuel : Nat) → List Char → Outline × Option (List Char)
  | 0, _ => (.broken, none)
  | fuel + 1, cs =>
    match cs.dropWhile isGap with
    | 'n' :: 'u' :: 'l' :: 'l' :: rest => (.null, some rest)
    | 't' :: 'r' :: 'u' :: 'e' :: rest => (.bool true, some rest)
    | 'f' :: 'a' :: 'l' :: 's' :: 'e' :: rest => (.bool false, some rest)
    | '"' :: rest =>
      match readString rest with
      | some (value, rest) => (.string value, some rest)
      | none => (.broken, none)
    | '[' :: rest =>
      match rest.dropWhile isGap with
      | ']' :: rest => (.array [], some rest)
      | rest => readItems fuel [] rest
    | '\x7b' :: rest =>
      match rest.dropWhile isGap with
      | '\x7d' :: rest => (.object [], some rest)
      | rest => readMembers fuel [] rest
    | cs =>
      match readNumber cs with
      | some (value, rest) => (.number value, some rest)
      | none => (.broken, none)

/-- Reads an item and those after it. -/
def readItems : (fuel : Nat) → List Outline → List Char → Outline × Option (List Char)
  | 0, read, _ => (.array (.broken :: read).reverse, none)
  | fuel + 1, read, cs =>
    match readOutline fuel cs with
    | (item, none) => (.array (item :: read).reverse, none)
    | (item, some rest) =>
      match rest.dropWhile isGap with
      | ',' :: rest => readItems fuel (item :: read) rest
      | ']' :: rest => (.array (item :: read).reverse, some rest)
      | _ => (.array (.broken :: item :: read).reverse, none)

/-- Reads a member and those after it. -/
def readMembers : (fuel : Nat) → List (Outline × Outline) → List Char →
    Outline × Option (List Char)
  | 0, read, _ => (.object ((.broken, .broken) :: read).reverse, none)
  | fuel + 1, read, cs =>
    match cs.dropWhile isGap with
    | '"' :: rest =>
      match readString rest with
      | none => (.object ((.broken, .broken) :: read).reverse, none)
      | some (name, rest) =>
        match rest.dropWhile isGap with
        | ':' :: rest =>
          match readOutline fuel rest with
          | (value, none) => (.object ((.string name, value) :: read).reverse, none)
          | (value, some rest) =>
            match rest.dropWhile isGap with
            | ',' :: rest => readMembers fuel ((.string name, value) :: read) rest
            | '\x7d' :: rest => (.object ((.string name, value) :: read).reverse, some rest)
            | _ => (.object ((.broken, .broken) :: (.string name, value) :: read).reverse, none)
        | _ => (.object ((.string name, .broken) :: read).reverse, none)
    | _ => (.object ((.broken, .broken) :: read).reverse, none)

end

/-- The outline of a text that holds one value, and whether nothing follows the value. -/
def outline (text : String) : Outline × Bool :=
  let cs := text.toList
  match readOutline (2 * cs.length + 2) cs with
  | (value, some rest) => (value, (rest.dropWhile isGap).isEmpty)
  | (value, none) => (value, false)

namespace Outline

mutual

/-- Whether the text breaks somewhere in the value. Strings and numbers without a value do not
break the text for a reader that skips them. -/
def isBroken : Outline → Bool
  | broken => true
  | array items => anyBroken items
  | object members => anyMemberBroken members
  | _ => false

/-- Whether the text breaks in one of the items. -/
def anyBroken : List Outline → Bool
  | [] => false
  | item :: items => item.isBroken || anyBroken items

/-- Whether the text breaks in one of the members. -/
def anyMemberBroken : List (Outline × Outline) → Bool
  | [] => false
  | (name, value) :: members => name.isBroken || value.isBroken || anyMemberBroken members

end

mutual

/-- The value that a text spells, if it holds no break and is nested at most `depth` deep. -/
def value? (depth : Nat) : Outline → Option Json
  | null => some .null
  | bool b => some (.bool b)
  | number n => n.map .number
  | string s => s.map .string
  | array items =>
    match depth with
    | 0 => none
    | depth + 1 => (values? depth items).map .array
  | object members =>
    match depth with
    | 0 => none
    | depth + 1 => (members? depth members).map Json.obj
  | broken => none

/-- The values of the items. -/
def values? (depth : Nat) : List Outline → Option (List Json)
  | [] => some []
  | item :: items =>
    match item.value? depth, values? depth items with
    | some v, some vs => some (v :: vs)
    | _, _ => none

/-- The names and values of the members. -/
def members? (depth : Nat) : List (Outline × Outline) → Option (List (String × Json))
  | [] => some []
  | (string (some name), value) :: members =>
    match value.value? depth, members? depth members with
    | some v, some vs => some ((name, v) :: vs)
    | _, _ => none
  | _ :: _ => none

end

end Outline

/-- How deep a value may be nested. -/
def maxDepth : Nat := 127

/-- The value that a text spells: one value nested at most `maxDepth` deep and nothing after it.
Of two members with one name the later wins. -/
def read? (text : String) : Option Json :=
  match outline text with
  | (value, true) => value.value? maxDepth
  | (_, false) => none

end CloudCollector.Json
