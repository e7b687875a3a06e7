import CloudCollector.Decode.Source
import CloudCollector.Yaml.Node
import CloudCollector.Text.Blank

/-!
# Decoding YAML documents

The kind of a plain scalar is the kind that is asked for: `5` is a string to one field and a
number to another. A place that is left empty is an empty string, list, map or struct.
-/

namespace CloudCollector.Yaml

namespace Node

/-- What a decoder finds in a node. -/
def found : Node → Found
  | .scalar text _ _ => .string text
  | .list _ => .sequence
  | .map _ => .map

/-- Refuses a node of the wrong kind. -/
def refuse {α : Type} (expected : String) (v : Node) : Reading α :=
  .error (.invalidType v.found expected)

/-- Whether a plain scalar says that there is no value. -/
def saysNull (text : String) : Bool :=
  text = "null" || text = "Null" || text = "NULL" || text = "~"

/-- The text of a scalar. -/
def asText (expected : String) : Node → Reading String
  | .scalar text _ _ => .ok text
  | v => v.refuse expected

/-- Reads digits around a point, with an optional exponent, as a double. -/
def decimal? (negative : Bool) (cs : List Char) : Option Binary64 :=
  let (whole, rest) := Json.readDigits cs
  let (fraction, rest) := match rest with
    | '.' :: rest => Json.readDigits rest
    | rest => ([], rest)
  if whole.isEmpty && fraction.isEmpty then none
  else
    match Json.readExponent rest with
    | some (exponent, []) =>
      some (.ofDecimal negative (Json.digitsValue (whole ++ fraction))
        (exponent.getD 0 - fraction.length))
    | _ => none

/-- The double that a plain scalar spells. -/
def real? (text : String) : Option Binary64 :=
  let infinity := [".inf", ".Inf", ".INF"]
  let (negative, unsigned) := match text.toList with
    | '-' :: rest => (true, rest)
    | '+' :: rest => (false, rest)
    | rest => (false, rest)
  if infinity.contains (String.ofList unsigned) then some (.infinite negative)
  else if [".nan", ".NaN", ".NAN"].contains text then some .notANumber
  else (decimal? negative unsigned).filter Binary64.isFinite

/-- The value of a number. -/
def asReal : Node → Reading Binary64
  | .scalar text true tag =>
    match real? text with
    | some x => .ok x
    | none => refuse "f64" (.scalar text true tag)
  | v => v.refuse "f64"

/-- The value of a switch. -/
def asFlag : Node → Reading Bool
  | .scalar text true tag =>
    if ["true", "True", "TRUE"].contains text then .ok true
    else if ["false", "False", "FALSE"].contains text then .ok false
    else refuse "a boolean" (.scalar text true tag)
  | v => v.refuse "a boolean"

/-- The items of a list. -/
def asItems : Node → Reading (List (Reading Node))
  | .list items => .ok (items.map .ok)
  | .scalar "" true _ => .ok []
  | v => v.refuse "a sequence"

/-- An entry of a map, whose key has to be a scalar. -/
def entry (e : Node × Node) : Reading (String × Node) := do
  return (← asText "a string" e.1, e.2)

/-- The entries of a map. -/
def asEntries : Node → Reading (List (Reading (String × Node)))
  | .map entries => .ok (entries.map entry)
  | .scalar "" true _ => .ok []
  | v => v.refuse "a map"

/-- The fields of a struct. -/
def asMembers (expected : String) : Node → Reading (Members Node)
  | .map entries => .ok (.byName (entries.map entry))
  | .list items => .ok (.byPosition (items.map .ok))
  | .scalar "" true _ => .ok (.byName [])
  | v => v.refuse expected

/-- A name, or the local tag of a scalar that says nothing else. -/
def asChoice (allowed : List String) : Node → Reading String
  | .scalar text plain tag =>
    match (tag.map String.toList).bind (Text.dropFront? ['!']) with
    | some name =>
      let name := String.ofList name
      if name ∉ allowed then .error (.unknownVariant name allowed)
      else if plain && (text = "" || saysNull text) then .ok name
      else .error (.invalidType (.string text) "unit")
    | none => if text ∈ allowed then .ok text else .error (.unknownVariant text allowed)
  | v => .error (.noChoice v.found)

instance : Source Node where
  text := asText
  real := asReal
  flag := asFlag
  isNone
    | .scalar text true _ => .ok (text = "" || saysNull text)
    | _ => .ok false
  items := asItems
  entries := asEntries
  members := asMembers
  choice := asChoice
  skip _ := .ok ()

end Node

/-- Why a text could not be read as a typed document. -/
inductive Fault where
  /-- The text is no YAML document. -/
  | syntactic
  /-- The document does not hold what was asked for. -/
  | data (fault : DecodeError)

/-- Reads a typed value from a text. -/
def decodeText {α : Type} (decode : Node → Reading α) (text : String) : Except Fault α :=
  match document? text with
  | none => .error .syntactic
  | some v => (decode v).mapError .data

end CloudCollector.Yaml
