import CloudCollector.Decode.Source
import CloudCollector.Json.Outline

/-!
# Decoding JSON text

A typed value is read from the outline of a text, so of several faults the one that stands first
in the text is found. A text that does not spell the value is faulty in one of two ways, which
`Json.TextFault` tells apart: its syntax breaks, or the data are of the wrong kind.
-/

namespace CloudCollector

namespace Json.Outline

/-- The kind of a value; a value that does not spell anything breaks the text. -/
def found : Outline → Reading Found
  | .null => .ok .null
  | .bool b => .ok (.bool b)
  | .number (some n) => .ok (.number n)
  | .string (some s) => .ok (.string s)
  | .array _ => .ok .sequence
  | .object _ => .ok .map
  | .number none | .string none | .broken => .error .brokenText

/-- Refuses a value of the wrong kind. -/
def refuse {α : Type} (expected : String) (v : Outline) : Reading α := do
  throw (.invalidType (← v.found) expected)

/-- The text of a string. -/
def asText (expected : String) : Outline → Reading String
  | .string (some s) => .ok s
  | v => v.refuse expected

/-- The value of a number. -/
def asReal : Outline → Reading Binary64
  | .number (some n) => .ok n.toBinary64
  | v => v.refuse "f64"

/-- The value of a switch. -/
def asFlag : Outline → Reading Bool
  | .bool b => .ok b
  | v => v.refuse "a boolean"

/-- A value, unless the text breaks there. -/
def unbroken : Outline → Reading Outline
  | .broken => .error .brokenText
  | v => .ok v

/-- A member with its name, unless the text breaks there. -/
def entry : Outline × Outline → Reading (String × Outline)
  | (.string (some name), v) => .ok (name, v)
  | _ => .error .brokenText

/-- The items of an array. -/
def asItems : Outline → Reading (List (Reading Outline))
  | .array items => .ok (items.map unbroken)
  | v => v.refuse "a sequence"

/-- The members of an object. -/
def asEntries : Outline → Reading (List (Reading (String × Outline)))
  | .object members => .ok (members.map entry)
  | v => v.refuse "a map"

/-- The fields of a struct. -/
def asMembers (expected : String) : Outline → Reading (Members Outline)
  | .object members => .ok (.byName (members.map entry))
  | .array items => .ok (.byPosition (items.map unbroken))
  | v => v.refuse expected

/-- A name by itself, or as the only member of an object, where it stands before null. -/
def asChoice (allowed : List String) : Outline → Reading String
  | .string (some s) => if s ∈ allowed then .ok s else .error (.unknownVariant s allowed)
  | .object ((.string (some name), content) :: others) => do
    if name ∉ allowed then throw (.unknownVariant name allowed)
    match content with
    | .null => pure ()
    | v => v.refuse "unit"
    if others.isEmpty then return name else throw (.noChoice .map)
  | v => do throw (.noChoice (← v.found))

/-- Passes over a value, which only has to be complete. -/
def skip (v : Outline) : Reading Unit :=
  if v.isBroken then .error .brokenText else .ok ()

instance : Source Outline where
  text := asText
  real := asReal
  flag := asFlag
  isNone
    | .null => .ok true
    | .broken => .error .brokenText
    | _ => .ok false
  items := asItems
  entries := asEntries
  members := asMembers
  choice := asChoice
  skip := skip

end Json.Outline

namespace Json

/-- How a text fails to spell a value. -/
inductive TextFault where
  /-- The text is no JSON. -/
  | syntactic
  /-- The text is JSON as far as it was read, but says something else. -/
  | data
  deriving DecidableEq

/-- Where a reader stops for the syntax: at a break, at a value that cannot be a choice, and at
items after the last field of a struct. -/
def TextFault.ofError : DecodeError → TextFault
  | .brokenText => .syntactic
  | .noChoice _ => .syntactic
  | .tooLong _ => .syntactic
  | _ => .data

/-- Reads a typed value from a text that holds nothing else. -/
def decodeText {α : Type} (decode : Outline → Reading α) (text : String) : Except TextFault α :=
  let (v, complete) := outline text
  match decode v with
  | .error fault => .error (.ofError fault)
  | .ok value => if complete then .ok value else .error .syntactic

end Json

end CloudCollector
