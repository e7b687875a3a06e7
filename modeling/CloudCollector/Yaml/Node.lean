import CloudCollector.Yaml.Token

/-!
# YAML documents

A document is a tree of scalars, lists and maps. A reference stands for the node that its anchor
names. Anything that is left out is an empty plain scalar, and so is a text without a document.
-/

namespace CloudCollector.Yaml

/-- A node of a document. -/
inductive Node where
  /-- A scalar, with its text, whether it is written plainly, and its tag. -/
  | scalar (text : String) (plain : Bool) (tag : Option String)
  | list (items : List Node)
  | map (entries : List (Node × Node))

/-- What stands where nothing is written. -/
def Node.nothing : Node :=
  .scalar "" true none

/-- Nodes with an anchor, the latest first. -/
abbrev Anchors := List (String × Node)

/-- A node, the tokens after it, and the anchors that are known then. -/
abbrev Read (α : Type) := Option (α × List Token × Anchors)

/-- Where a node stands, which decides what it may be. -/
inductive Place where
  /-- Between brackets. -/
  | bracketed
  /-- In a block. -/
  | block
  /-- In a map, where a list may be indented like its key. -/
  | underKey

namespace Token

/-- Whether the token ends an entry of a map or of a list that is indented like a key. -/
def endsEntry : Token → Bool
  | key | value | blockEnd => true
  | _ => false

/-- Whether the token ends an item between brackets. -/
def endsItem : Token → Bool
  | comma | bracketClose | braceClose => true
  | _ => false

end Token

/-- Reads an anchor and a tag, in either order. -/
def readProperties : List Token → Option String × Option String × List Token
  | .anchor a :: .tag t :: rest => (some a, some t, rest)
  | .tag t :: .anchor a :: rest => (some a, some t, rest)
  | .anchor a :: rest => (some a, none, rest)
  | .tag t :: rest => (none, some t, rest)
  | rest => (none, none, rest)

mutual

/-- Reads a node. -/
def readNode (place : Place) : (fuel : Nat) → List Token → Anchors → Read Node
  | 0, _, _ => none
  | _ + 1, .reference name :: rest, anchors =>
    (anchors.find? (·.1 == name)).map fun found => (found.2, rest, anchors)
  | fuel + 1, tokens, anchors =>
    let (anchor, tag, tokens) := readProperties tokens
    match readContent place fuel tag (anchor.isSome || tag.isSome) tokens anchors with
    | none => none
    | some (node, rest, anchors) =>
      some (node, rest, match anchor with
        | some name => (name, node) :: anchors
        | none => anchors)

/-- Reads a node after its anchor and its tag; after one of these it may be left out. -/
def readContent (place : Place) (fuel : Nat) (tag : Option String) (mayBeEmpty : Bool)
    (tokens : List Token) (anchors : Anchors) : Read Node :=
  match fuel with
  | 0 => none
  | fuel + 1 =>
    match place, tokens with
    | .underKey, .dash :: _ => readInnerItems fuel [] tokens anchors
    | _, .scalar text plain :: rest => some (.scalar text plain tag, rest, anchors)
    | _, .bracketOpen :: rest => readBracket fuel true [] rest anchors
    | _, .braceOpen :: rest => readBrace fuel true [] rest anchors
    | .block, .listStart :: rest | .underKey, .listStart :: rest => readItems fuel [] rest anchors
    | .block, .mapStart :: rest | .underKey, .mapStart :: rest => readEntries fuel [] rest anchors
    | _, _ => if mayBeEmpty then some (.scalar "" true tag, tokens, anchors) else none

/-- Reads a node, or nothing where one of the given tokens follows. -/
def readUnless (place : Place) (fuel : Nat) (ends : Token → Bool) (tokens : List Token)
    (anchors : Anchors) : Read Node :=
  match fuel, tokens with
  | 0, _ => none
  | _ + 1, [] => some (.nothing, [], anchors)
  | fuel + 1, t :: rest =>
    if ends t then some (.nothing, t :: rest, anchors) else readNode place fuel (t :: rest) anchors

/-- Reads the items of a list in a block. -/
def readItems : (fuel : Nat) → List Node → List Token → Anchors → Read Node
  | 0, _, _, _ => none
  | fuel + 1, read, .dash :: rest, anchors =>
    match readUnless .block fuel (fun t => t == .dash || t == .blockEnd) rest anchors with
    | none => none
    | some (item, rest, anchors) => readItems fuel (item :: read) rest anchors
  | _ + 1, read, .blockEnd :: rest, anchors => some (.list read.reverse, rest, anchors)
  | _, _, _, _ => none

/-- Reads the items of a list that is indented like the key in front of it. -/
def readInnerItems : (fuel : Nat) → List Node → List Token → Anchors → Read Node
  | 0, _, _, _ => none
  | fuel + 1, read, .dash :: rest, anchors =>
    match readUnless .block fuel (fun t => t == .dash || t.endsEntry) rest anchors with
    | none => none
    | some (item, rest, anchors) => readInnerItems fuel (item :: read) rest anchors
  | _ + 1, read, rest, anchors => some (.list read.reverse, rest, anchors)

/-- Reads the entries of a map in a block. -/
def readEntries : (fuel : Nat) → List (Node × Node) → List Token → Anchors → Read Node
  | 0, _, _, _ => none
  | fuel + 1, read, .key :: rest, anchors =>
    match readUnless .underKey fuel Token.endsEntry rest anchors with
    | none => none
    | some (key, .value :: rest, anchors) =>
      match readUnless .underKey fuel Token.endsEntry rest anchors with
      | none => none
      | some (value, rest, anchors) => readEntries fuel ((key, value) :: read) rest anchors
    | some (key, rest, anchors) => readEntries fuel ((key, .nothing) :: read) rest anchors
  | _ + 1, read, .blockEnd :: rest, anchors => some (.map read.reverse, rest, anchors)
  | _, _, _, _ => none

/-- Reads the items of a list between brackets; an announced key makes an item a map with one
entry. -/
def readBracket : (fuel : Nat) → (first : Bool) → List Node → List Token → Anchors → Read Node
  | 0, _, _, _, _ => none
  | _ + 1, _, read, .bracketClose :: rest, anchors => some (.list read.reverse, rest, anchors)
  | fuel + 1, first, read, tokens, anchors =>
    match first, tokens with
    | false, .comma :: .bracketClose :: rest => some (.list read.reverse, rest, anchors)
    | false, .comma :: .key :: rest | true, .key :: rest =>
      match readPair fuel rest anchors with
      | none => none
      | some (pair, rest, anchors) =>
        readBracket fuel false (.map [pair] :: read) rest anchors
    | false, .comma :: rest | true, rest =>
      match readNode .bracketed fuel rest anchors with
      | none => none
      | some (item, rest, anchors) => readBracket fuel false (item :: read) rest anchors
    | false, _ => none

/-- Reads the entries of a map between braces. -/
def readBrace : (fuel : Nat) → (first : Bool) → List (Node × Node) → List Token → Anchors →
    Read Node
  | 0, _, _, _, _ => none
  | _ + 1, _, read, .braceClose :: rest, anchors => some (.map read.reverse, rest, anchors)
  | fuel + 1, first, read, tokens, anchors =>
    match first, tokens with
    | false, .comma :: .braceClose :: rest => some (.map read.reverse, rest, anchors)
    | false, .comma :: .key :: rest | true, .key :: rest =>
      match readPair fuel rest anchors with
      | none => none
      | some (pair, rest, anchors) => readBrace fuel false (pair :: read) rest anchors
    | false, .comma :: rest | true, rest =>
      match readNode .bracketed fuel rest anchors with
      | none => none
      | some (key, rest, anchors) => readBrace fuel false ((key, .nothing) :: read) rest anchors
    | false, _ => none

/-- Reads a key between brackets that was announced, and its value. -/
def readPair (fuel : Nat) (tokens : List Token) (anchors : Anchors) : Read (Node × Node) :=
  match fuel with
  | 0 => none
  | fuel + 1 =>
    match readUnless .bracketed fuel (fun t => t == .value || t.endsItem) tokens anchors with
    | none => none
    | some (key, .value :: rest, anchors) =>
      match readUnless .bracketed fuel Token.endsItem rest anchors with
      | none => none
      | some (value, rest, anchors) => some ((key, value), rest, anchors)
    | some (key, rest, anchors) => some ((key, .nothing), rest, anchors)

end

/-- Passes over the directives in front of a document; they need a mark after them. -/
def dropDirectives : List Token → Option (List Token)
  | .directive :: rest =>
    match dropDirectives rest with
    | some (.documentStart :: rest) => some (.documentStart :: rest)
    | _ => none
  | rest => some rest

/-- Reads the only document of a token list. -/
def readDocument (tokens : List Token) : Option Node :=
  match dropDirectives (tokens.dropWhile (· == .documentEnd)) with
  | none => none
  | some [] => some .nothing
  | some tokens =>
    let body := match tokens with
      | .documentStart :: rest => rest
      | tokens => tokens
    let ends (t : Token) := t == .directive || t == .documentStart || t == .documentEnd
    match readUnless .block (4 * body.length + 4) ends body [] with
    | some (node, rest, _) => if rest.all (· == .documentEnd) then some node else none
    | none => none

/-- The document that a text holds, unless the text is faulty or holds several. -/
def document? (text : String) : Option Node :=
  (tokens? text).bind readDocument

end CloudCollector.Yaml
