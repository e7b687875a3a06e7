import CloudCollector.Json.Printer
import CloudCollector.Text.Quoted

/-!
# Why a document could not be decoded

A decoder stops at the first fault it meets and names its cause. `DecodeError.message` words it.
-/

namespace CloudCollector

/-- What a decoder found in a document. -/
inductive Found where
  | null
  | bool (value : Bool)
  | number (value : Number)
  | string (value : String)
  | sequence
  | map
  deriving DecidableEq

namespace Found

/-- The kind of a JSON value. -/
def ofJson : Json → Found
  | .null => null
  | .bool b => bool b
  | .number n => number n
  | .string s => string s
  | .array _ => sequence
  | .object _ => map

/-- What was found, in words. -/
def describe : Found → String
  | null => "null"
  | bool b => "boolean `" ++ (if b then "true" else "false") ++ "`"
  | number (.int n) => "integer `" ++ String.ofList (Json.printInt n) ++ "`"
  | number (.real x) => "floating point `" ++ String.ofList (Json.printReal x) ++ "`"
  | string s => "string " ++ Text.quote s
  | sequence => "sequence"
  | map => "map"

end Found

/-- Why a document could not be decoded. -/
inductive DecodeError where
  /-- A value is of the wrong kind. -/
  | invalidType (found : Found) (expected : String)
  /-- A value is of the right kind but not one of those allowed. -/
  | invalidValue (found : Found) (expected : String)
  /-- A field without default is missing. -/
  | missingField (name : String)
  /-- A field is given twice. -/
  | duplicateField (name : String)
  /-- A name is none of those that a choice allows. -/
  | unknownVariant (given : String) (allowed : List String)
  /-- A value is no choice at all, neither by name nor by a map with one key. -/
  | noChoice (found : Found)
  /-- A sequence ends before a field without default. -/
  | tooShort (given : Nat) (expected : String)
  /-- A sequence goes on after the last field. -/
  | tooLong (given : Nat)
  /-- A value has none of the shapes that a choice between shapes allows. -/
  | noShape (name : String)
  /-- The text breaks before the value is complete. -/
  | brokenText
  deriving DecidableEq

namespace DecodeError

/-- The names that a choice allows, in words. -/
def oneOf : List String → String
  | [] => "there are no variants"
  | [a] => "expected `" ++ a ++ "`"
  | [a, b] => "expected `" ++ a ++ "` or `" ++ b ++ "`"
  | names => "expected one of " ++ ", ".intercalate (names.map fun n => "`" ++ n ++ "`")

/-- The cause in words. -/
def message : DecodeError → String
  | invalidType found expected =>
    "invalid type: " ++ found.describe ++ ", expected " ++ expected
  | invalidValue found expected =>
    "invalid value: " ++ found.describe ++ ", expected " ++ expected
  | missingField name => "missing field `" ++ name ++ "`"
  | duplicateField name => "duplicate field `" ++ name ++ "`"
  | unknownVariant given allowed => "unknown variant `" ++ given ++ "`, " ++ oneOf allowed
  | noChoice .map => "invalid value: map, expected map with a single key"
  | noChoice found => "invalid type: " ++ found.describe ++ ", expected string or map"
  | tooShort given expected =>
    "invalid length " ++ toString given ++ ", expected " ++ expected
  | tooLong given =>
    "invalid length " ++ toString given ++ ", expected fewer elements in array"
  | noShape name => "data did not match any variant of untagged enum " ++ name
  | brokenText => "the text breaks off"

end DecodeError

end CloudCollector
