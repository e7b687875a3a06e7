import CloudCollector.Decode.Error

/-!
# Reading typed values from documents

Configuration and telemetry arrive as JSON values, as JSON text and as YAML text. `Source` says
how each kind of document shows a string, a number, a list or a map; the decoders of the domain
types are written once over it. A struct is a map by field name or a list by field position, and
is read by `Fields.read`: the fields that are given are converted in the order in which the
document lists them, then the first field that is missing without a default is named.
-/

namespace CloudCollector

/-- A part of a document, or the fault that stops a reader there. -/
abbrev Reading (α : Type) := Except DecodeError α

/-- The two shapes of a struct. -/
inductive Members (ν : Type) where
  /-- Fields by name, in the order of the document. -/
  | byName (entries : List (Reading (String × ν)))
  /-- Fields by position. -/
  | byPosition (items : List (Reading ν))

/-- A document that typed values are read from. -/
class Source (ν : Type) where
  /-- The text of a string, where `expected` says in words what the string should hold. -/
  text : (expected : String) → ν → Reading String
  /-- The value of a number. -/
  real : ν → Reading Binary64
  /-- The value of a switch. -/
  flag : ν → Reading Bool
  /-- Whether the document says that there is no value. -/
  isNone : ν → Reading Bool
  /-- The items of a list. -/
  items : ν → Reading (List (Reading ν))
  /-- The entries of a map. -/
  entries : ν → Reading (List (Reading (String × ν)))
  /-- The fields of a struct, where `expected` names the struct. -/
  members : (expected : String) → ν → Reading (Members ν)
  /-- The name that is chosen among the allowed ones. -/
  choice : (allowed : List String) → ν → Reading String
  /-- Passes over a value that nobody asks for. -/
  skip : ν → Reading Unit

namespace Decode

variable {ν α β : Type}

/-- Reads a string. -/
def string [Source ν] : ν → Reading String :=
  Source.text "a string"

/-- Reads one item after the other; a fault in the list stops there. -/
def each (decode : ν → Reading α) : List (Reading ν) → Reading (List α)
  | [] => .ok []
  | item :: rest => do
    let value ← decode (← item)
    return value :: (← each decode rest)

/-- Reads a list. -/
def list [Source ν] (decode : ν → Reading α) (v : ν) : Reading (List α) := do
  each decode (← Source.items v)

/-- Reads one entry after the other into a dictionary; of two entries with one key the later
wins. -/
def eachEntry (decode : ν → Reading α) (read : Dict α) :
    List (Reading (String × ν)) → Reading (Dict α)
  | [] => .ok read
  | entry :: rest => do
    let (key, v) ← entry
    let value ← decode v
    eachEntry decode (read.insert key value) rest

/-- Reads a map. -/
def dict [Source ν] (decode : ν → Reading α) (v : ν) : Reading (Dict α) := do
  eachEntry decode .empty (← Source.entries v)

/-- Reads a value that may be left out. -/
def option [Source ν] (decode : ν → Reading α) (v : ν) : Reading (Option α) := do
  if ← Source.isNone v then return none else return some (← decode v)

/-- Reads one of several names; `names` lists them with what they stand for. -/
def choice [Source ν] (names : List (String × α)) (v : ν) : Reading α := do
  let name ← Source.choice (names.map (·.1)) v
  match names.find? (·.1 == name) with
  | some entry => return entry.2
  | none => throw (.unknownVariant name (names.map (·.1)))

end Decode

/-- What a struct holds for one of its fields. -/
inductive Slot (ν : Type) where
  /-- The document gives the field. -/
  | given (v : ν)
  /-- The document leaves the field out, which is this fault if the field has no default. -/
  | absent (fault : DecodeError)
  /-- The document breaks where the field would stand. -/
  | faulty (fault : DecodeError)

/-- The fields of a struct of type `α`, read from documents of type `ν`. -/
structure Fields (ν α : Type) where
  /-- The name of each field in order of declaration, and a check that its value converts. -/
  checks : List (String × (ν → Reading Unit))
  /-- The value made of the fields, and the slots after them. -/
  build : List (Slot ν) → Reading (α × List (Slot ν))

namespace Fields

variable {ν α β : Type}

/-- A struct without fields. -/
def pure (a : α) : Fields ν α :=
  ⟨[], fun slots => .ok (a, slots)⟩

/-- The fields of `f`, then those of `a`. -/
def seq (f : Fields ν (α → β)) (a : Unit → Fields ν α) : Fields ν β :=
  ⟨f.checks ++ (a ()).checks, fun slots => do
    let (g, slots) ← f.build slots
    let (x, slots) ← (a ()).build slots
    return (g x, slots)⟩

instance : Applicative (Fields ν) where
  pure := pure
  seq := seq

/-- A check that a value converts. -/
def check (decode : ν → Reading α) (v : ν) : Reading Unit := do
  let _ ← decode v

/-- A field without default. -/
def required (name : String) (decode : ν → Reading α) : Fields ν α :=
  ⟨[(name, check decode)], fun
    | .given v :: slots => do return (← decode v, slots)
    | .absent fault :: _ => .error fault
    | .faulty fault :: _ => .error fault
    | [] => .error (.missingField name)⟩

/-- A field that may be left out and then has the value `fallback`. -/
def defaulted (name : String) (fallback : α) (decode : ν → Reading α) : Fields ν α :=
  ⟨[(name, check decode)], fun
    | .given v :: slots => do return (← decode v, slots)
    | .absent _ :: slots => .ok (fallback, slots)
    | .faulty fault :: _ => .error fault
    | [] => .ok (fallback, [])⟩

/-- Goes through the fields that a document gives by name: converts each that the struct knows,
passes over the others, and collects what was given. A field given twice is a fault. -/
def collect [Source ν] (checks : List (String × (ν → Reading Unit))) (found : List (String × ν)) :
    List (Reading (String × ν)) → Reading (List (String × ν))
  | [] => .ok found
  | entry :: rest => do
    let (name, v) ← entry
    match checks.find? (·.1 == name) with
    | none =>
      Source.skip v
      collect checks found rest
    | some (_, convert) =>
      if found.any (·.1 == name) then throw (.duplicateField name)
      convert v
      collect checks ((name, v) :: found) rest

/-- The slots of fields that were given by name. -/
def slotsByName (names : List String) (found : List (String × ν)) : List (Slot ν) :=
  names.map fun name =>
    match found.find? (·.1 == name) with
    | some (_, v) => .given v
    | none => .absent (.missingField name)

/-- The slots of fields that were given by position, from position `index` on. -/
def slotsByPosition (expected : String) (index : Nat) : List String → List (Reading ν) →
    List (Slot ν)
  | [], _ => []
  | _ :: names, [] =>
    .absent (.tooShort index expected) :: slotsByPosition expected (index + 1) names []
  | _ :: names, .ok v :: items => .given v :: slotsByPosition expected (index + 1) names items
  | _ :: _, .error fault :: _ => [.faulty fault]

/-- Reads a struct with the given name. -/
def read [Source ν] (name : String) (fields : Fields ν α) (v : ν) : Reading α := do
  match ← Source.members ("struct " ++ name) v with
  | .byName entries =>
    let found ← collect fields.checks [] entries
    return (← fields.build (slotsByName (fields.checks.map (·.1)) found)).1
  | .byPosition items =>
    let count := fields.checks.length
    let expected := "struct " ++ name ++ " with " ++ toString count ++
      (if count = 1 then " element" else " elements")
    let (value, _) ← fields.build (slotsByPosition expected 0 (fields.checks.map (·.1)) items)
    if count < items.length then throw (.tooLong items.length)
    return value

end Fields

end CloudCollector
