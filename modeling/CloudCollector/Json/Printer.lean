import CloudCollector.Json.Basic
import CloudCollector.Number.Shortest

/-!
# Compact JSON text

Values are written without white space, members in the order in which the object lists them.
Doubles are written with the fewest digits that read back, positionally when the decimal point
falls at most sixteen places after and four places before the first digit.
-/

namespace CloudCollector.Json

/-- Doubles keep a fractional part, so that they read back as doubles, and a positive exponent
carries its sign. -/
def realFormat : Binary64.DecimalFormat :=
  ⟨-4, 16, true, ['.', '0']⟩

/-- Writes a double; what is not finite has no number and is written as null. -/
def printReal : Binary64 → List Char
  | .finite negative exponent fraction => realFormat.finite negative exponent fraction
  | _ => ['n', 'u', 'l', 'l']

/-- Writes an integer in decimal. -/
def printInt (n : Int) : List Char :=
  (if n < 0 then ['-'] else []) ++ Nat.toDigits 10 n.natAbs

/-- Writes a number. -/
def printNumber : Number → List Char
  | .int n => printInt n
  | .real x => printReal x

/-- How one character is spelled between quotes: quotes, backslashes and control characters are
escaped, everything else stands for itself. -/
def printChar (c : Char) : List Char :=
  match c with
  | '"' => ['\\', '"']
  | '\\' => ['\\', '\\']
  | '\x08' => ['\\', 'b']
  | '\t' => ['\\', 't']
  | '\n' => ['\\', 'n']
  | '\x0c' => ['\\', 'f']
  | '\r' => ['\\', 'r']
  | c =>
    if c.toNat < 32 then
      ['\\', 'u', '0', '0', Nat.digitChar (c.toNat / 16), Nat.digitChar (c.toNat % 16)]
    else [c]

/-- Writes a string. -/
def printString (s : String) : List Char :=
  '"' :: (s.toList.flatMap printChar ++ ['"'])

mutual

/-- Writes a value in front of `rest`. -/
def printOnto : Json → List Char → List Char
  | .null, rest => 'n' :: 'u' :: 'l' :: 'l' :: rest
  | .bool true, rest => 't' :: 'r' :: 'u' :: 'e' :: rest
  | .bool false, rest => 'f' :: 'a' :: 'l' :: 's' :: 'e' :: rest
  | .number n, rest => printNumber n ++ rest
  | .string s, rest => printString s ++ rest
  | .array [], rest => '[' :: ']' :: rest
  | .array (item :: items), rest => '[' :: printOnto item (printItems items rest)
  | .object [], rest => '\x7b' :: '\x7d' :: rest
  | .object ((name, value) :: members), rest =>
    '\x7b' :: (printString name ++ ':' :: printOnto value (printMembers members rest))

/-- Writes the items of an array after the first. -/
def printItems : List Json → List Char → List Char
  | [], rest => ']' :: rest
  | item :: items, rest => ',' :: printOnto item (printItems items rest)

/-- Writes the members of an object after the first. -/
def printMembers : List (String × Json) → List Char → List Char
  | [], rest => '\x7d' :: rest
  | (name, value) :: members, rest =>
    ',' :: (printString name ++ ':' :: printOnto value (printMembers members rest))

end

/-- Writes a value as compact text. -/
def print (value : Json) : String :=
  String.ofList (printOnto value [])

end CloudCollector.Json
