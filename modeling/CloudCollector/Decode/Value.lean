import CloudCollector.Decode.Source

/-!
# Decoding JSON values

A JSON value shows its members by increasing name, and each value has the kind that it was
written with.
-/

namespace CloudCollector

namespace Json

/-- The text of a string. -/
def asText (expected : String) : Json → Reading String
  | .string s => .ok s
  | v => .error (.invalidType (.ofJson v) expected)

/-- The value of a number. -/
def asReal : Json → Reading Binary64
  | .number n => .ok n.toBinary64
  | v => .error (.invalidType (.ofJson v) "f64")

/-- The value of a switch. -/
def asFlag : Json → Reading Bool
  | .bool b => .ok b
  | v => .error (.invalidType (.ofJson v) "a boolean")

/-- The items of an array. -/
def asItems : Json → Reading (List (Reading Json))
  | .array items => .ok (items.map .ok)
  | v => .error (.invalidType (.ofJson v) "a sequence")

/-- The members of an object. -/
def asEntries : Json → Reading (List (Reading (String × Json)))
  | .object members => .ok (members.map .ok)
  | v => .error (.invalidType (.ofJson v) "a map")

/-- The fields of a struct. -/
def asMembers (expected : String) : Json → Reading (Members Json)
  | .object members => .ok (.byName (members.map .ok))
  | .array items => .ok (.byPosition (items.map .ok))
  | v => .error (.invalidType (.ofJson v) expected)

/-- A name by itself, or as the only member of an object, where it stands before null. -/
def asChoice (allowed : List String) : Json → Reading String
  | .string s => if s ∈ allowed then .ok s else .error (.unknownVariant s allowed)
  | .object [(name, content)] =>
    if name ∈ allowed then
      match content with
      | .null => .ok name
      | v => .error (.invalidType (.ofJson v) "unit")
    else .error (.unknownVariant name allowed)
  | v => .error (.noChoice (.ofJson v))

instance : Source Json where
  text := asText
  real := asReal
  flag := asFlag
  isNone v := .ok (v = .null)
  items := asItems
  entries := asEntries
  members := asMembers
  choice := asChoice
  skip _ := .ok ()

end Json

/-- Takes a JSON value as it is. -/
def Decode.json (v : Json) : Reading Json :=
  .ok v

end CloudCollector
