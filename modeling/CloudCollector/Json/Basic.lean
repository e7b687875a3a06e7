import CloudCollector.Dict
import CloudCollector.Number.Binary64

/-!
# JSON values

The payload of records, traits and documents. A number written without fraction and exponent
stays an integer as long as it fits into 64 bits. An object lists its members; the members that
come from a reader or from a dictionary increase by name.
-/

namespace CloudCollector

/-- A JSON number. -/
inductive Number where
  /-- A number written as an integer. -/
  | int (value : Int)
  /-- Any other number, or an integer of more than 64 bits. -/
  | real (value : Binary64)
  deriving DecidableEq

/-- The double nearest to a number. -/
def Number.toBinary64 : Number → Binary64
  | .int n => .ofInt n
  | .real x => x

/-- A JSON value. -/
inductive Json where
  | null
  | bool (value : Bool)
  | number (value : Number)
  | string (value : String)
  | array (items : List Json)
  | object (members : List (String × Json))

namespace Json

instance : Inhabited Json := ⟨null⟩

mutual

/-- Decides whether two values are equal. -/
def decEq : (a b : Json) → Decidable (a = b)
  | .null, .null => isTrue rfl
  | .bool a, .bool b => decidable_of_iff (a = b) (by simp)
  | .number a, .number b => decidable_of_iff (a = b) (by simp)
  | .string a, .string b => decidable_of_iff (a = b) (by simp)
  | .array a, .array b =>
    match decEqItems a b with
    | isTrue h => isTrue (by rw [h])
    | isFalse h => isFalse fun heq => h (Json.array.inj heq)
  | .object a, .object b =>
    match decEqMembers a b with
    | isTrue h => isTrue (by rw [h])
    | isFalse h => isFalse fun heq => h (Json.object.inj heq)
  | .null, .bool _ | .null, .number _ | .null, .string _ | .null, .array _ | .null, .object _
  | .bool _, .null | .bool _, .number _ | .bool _, .string _ | .bool _, .array _
  | .bool _, .object _ | .number _, .null | .number _, .bool _ | .number _, .string _
  | .number _, .array _ | .number _, .object _ | .string _, .null | .string _, .bool _
  | .string _, .number _ | .string _, .array _ | .string _, .object _ | .array _, .null
  | .array _, .bool _ | .array _, .number _ | .array _, .string _ | .array _, .object _
  | .object _, .null | .object _, .bool _ | .object _, .number _ | .object _, .string _
  | .object _, .array _ => isFalse (by simp)

/-- Decides whether two lists of values are equal. -/
def decEqItems : (a b : List Json) → Decidable (a = b)
  | [], [] => isTrue rfl
  | [], _ :: _ => isFalse (by simp)
  | _ :: _, [] => isFalse (by simp)
  | x :: xs, y :: ys =>
    match decEq x y, decEqItems xs ys with
    | isTrue h, isTrue hs => isTrue (by rw [h, hs])
    | isFalse h, _ => isFalse fun heq => h (List.cons.inj heq).1
    | _, isFalse hs => isFalse fun heq => hs (List.cons.inj heq).2

/-- Decides whether two lists of members are equal. -/
def decEqMembers : (a b : List (String × Json)) → Decidable (a = b)
  | [], [] => isTrue rfl
  | [], _ :: _ => isFalse (by simp)
  | _ :: _, [] => isFalse (by simp)
  | (k, x) :: xs, (l, y) :: ys =>
    if hk : k = l then
      match decEq x y, decEqMembers xs ys with
      | isTrue h, isTrue hs => isTrue (by rw [hk, h, hs])
      | isFalse h, _ => isFalse fun heq => h (Prod.mk.inj (List.cons.inj heq).1).2
      | _, isFalse hs => isFalse fun heq => hs (List.cons.inj heq).2
    else isFalse fun heq => hk (Prod.mk.inj (List.cons.inj heq).1).1

end

instance : DecidableEq Json := decEq

/-- An integer. -/
def ofInt (n : Int) : Json :=
  .number (.int n)

/-- A natural number. -/
def ofNat (n : Nat) : Json :=
  .number (.int n)

/-- A double, or null for a value that no number stands for. -/
def ofReal (x : Binary64) : Json :=
  if x.isFinite then .number (.real x) else .null

/-- The value, or null for none. -/
def ofOption {α : Type} (encode : α → Json) : Option α → Json
  | none => .null
  | some a => encode a

/-- An array of encoded items. -/
def ofList {α : Type} (encode : α → Json) (items : List α) : Json :=
  .array (items.map encode)

/-- An object with the entries of a dictionary. -/
def ofDict {α : Type} (encode : α → Json) (d : Dict α) : Json :=
  .object (d.entries.map fun entry => (entry.1, encode entry.2))

/-- An object with its members put in increasing order of names; of two members with one name
the later wins. -/
def obj (members : List (String × Json)) : Json :=
  .object (Dict.ofList members).entries

/-- The member of an object with that name. -/
def member? : Json → String → Option Json
  | .object members, name => Dict.findEntry name members
  | _, _ => none

end Json

end CloudCollector
