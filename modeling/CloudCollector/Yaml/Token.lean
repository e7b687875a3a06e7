import CloudCollector.Yaml.Scalar

/-!
# Tokens of YAML text

Indentation and colons decide the structure of a block. A token list makes that structure
explicit: the start and end of every block stand in it, and a key is announced in front of what
turned out to be one once its colon was met.
-/

namespace CloudCollector.Yaml

/-- A token of a text. -/
inductive Token where
  | directive
  | documentStart
  | documentEnd
  | listStart
  | mapStart
  | blockEnd
  | bracketOpen
  | bracketClose
  | braceOpen
  | braceClose
  | dash
  | comma
  | key
  | value
  | reference (name : String)
  | anchor (name : String)
  | tag (name : String)
  | scalar (text : String) (plain : Bool)
  deriving DecidableEq

/-- A place where a key may have begun. -/
structure KeyPlace where
  /-- Whether the text is faulty unless a key begins here. -/
  required : Bool
  /-- How many tokens stand before it. -/
  tokens : Nat
  /-- Where it is in the text. -/
  place : Cursor

/-- A text that is cut into tokens. -/
structure Lexer where
  /-- Where the next token is looked for. -/
  cursor : Cursor
  /-- The column of the innermost block, or -1 outside of blocks. -/
  indent : Int
  /-- The columns of the blocks around it. -/
  outer : List Int
  /-- Whether a key may begin with the next token. -/
  keyAllowed : Bool
  /-- Where a key may have begun, outside of brackets. -/
  blockKey : Option KeyPlace
  /-- Where a key may have begun, in each bracket that is open; the innermost comes first. -/
  bracketKeys : List (Option KeyPlace)
  /-- The tokens so far. -/
  tokens : Array Token
  /-- Whether the text is used up. -/
  finished : Bool

namespace Lexer

/-- The lexer in front of a text. -/
def start (text : List Char) : Lexer :=
  ⟨.start text, -1, [], true, none, [], #[], false⟩

/-- Whether a bracket is open. -/
def bracketed (l : Lexer) : Bool :=
  !l.bracketKeys.isEmpty

/-- Adds a token. -/
def push (l : Lexer) (t : Token) : Lexer :=
  { l with tokens := l.tokens.push t }

/-- Adds a token before those from position `i` on. -/
def pushAt (l : Lexer) (i : Nat) (t : Token) : Lexer :=
  { l with tokens := l.tokens.extract 0 i ++ #[t] ++ l.tokens.extract i l.tokens.size }

/-- The place where a key may have begun at the current depth. -/
def keyPlace (l : Lexer) : Option KeyPlace :=
  match l.bracketKeys with
  | [] => l.blockKey
  | place :: _ => place

/-- Replaces the place where a key may have begun at the current depth. -/
def setKeyPlace (l : Lexer) (place : Option KeyPlace) : Lexer :=
  match l.bracketKeys with
  | [] => { l with blockKey := place }
  | _ :: rest => { l with bracketKeys := place :: rest }

/-- Gives up the key that may have begun; the text is faulty if it was required. -/
def dropKey (l : Lexer) : Option Lexer :=
  match l.keyPlace with
  | some place => if place.required then none else some (l.setKeyPlace none)
  | none => some l

/-- Notes that a key may begin here. -/
def noteKey (l : Lexer) : Option Lexer :=
  if l.keyAllowed then do
    let l ← l.dropKey
    let required := !l.bracketed && l.indent == (l.cursor.column : Int)
    return l.setKeyPlace (some ⟨required, l.tokens.size, l.cursor⟩)
  else some l

/-- A key stands on one line and is at most 1024 characters long; a place further back is given
up. -/
def forgetOld (l : Lexer) : Option KeyPlace → Option (Option KeyPlace)
  | none => some none
  | some place =>
    if place.place.line < l.cursor.line ∨ place.place.index + 1024 < l.cursor.index then
      if place.required then none else some none
    else some (some place)

/-- Gives up every place that is too far back. -/
def forgetOldKeys (l : Lexer) : Option Lexer := do
  let blockKey ← l.forgetOld l.blockKey
  let bracketKeys ← l.bracketKeys.mapM l.forgetOld
  return { l with blockKey, bracketKeys }

/-- Closes the blocks that are indented deeper than `column`. -/
def closeBlocks (column : Int) : List Int → Lexer → Lexer
  | [], l => l
  | previous :: outer, l =>
    if column < l.indent then
      closeBlocks column outer { l.push .blockEnd with indent := previous, outer }
    else l

/-- Closes the blocks that end before the cursor. -/
def unroll (l : Lexer) (column : Int) : Lexer :=
  if l.bracketed then l else closeBlocks column l.outer l

/-- Opens a block at a column that lies right of the innermost block, in front of the token at
position `i`. -/
def roll (l : Lexer) (column : Nat) (i : Nat) (t : Token) : Lexer :=
  if !l.bracketed && decide (l.indent < (column : Int)) then
    { l.pushAt i t with indent := column, outer := l.indent :: l.outer }
  else l

/-- Adds a token of `n` characters. -/
def single (l : Lexer) (n : Nat) (t : Token) : Lexer :=
  { l.push t with cursor := l.cursor.skip n }

/-- Passes over the line of a directive, which gives the version or names a prefix. -/
def directive (l : Lexer) : Option Lexer := do
  let l ← (l.unroll (-1)).dropKey
  let line := l.cursor.rest.takeWhile fun ch => !isBreak ch
  let words := ((String.ofList line).splitOn " ").filter (· != "")
  let known := match words with
    | "%YAML" :: version :: _ => version == "1.1" || version == "1.2"
    | "%TAG" :: _ => true
    | _ => false
  if known then
    return { l.push .directive with keyAllowed := false, cursor := l.cursor.skip line.length }
  else none

/-- Adds the mark of a document. -/
def documentMark (l : Lexer) (t : Token) : Option Lexer := do
  let l ← (l.unroll (-1)).dropKey
  return { l.single 3 t with keyAllowed := false }

/-- Opens a bracket. -/
def openBracket (l : Lexer) (t : Token) : Option Lexer := do
  let l ← l.noteKey
  return { l.single 1 t with bracketKeys := none :: l.bracketKeys, keyAllowed := true }

/-- Closes a bracket. -/
def closeBracket (l : Lexer) (t : Token) : Option Lexer := do
  let l ← l.dropKey
  return { l.single 1 t with bracketKeys := l.bracketKeys.drop 1, keyAllowed := false }

/-- Separates items between brackets. -/
def comma (l : Lexer) : Option Lexer := do
  let l ← l.dropKey
  return { l.single 1 .comma with keyAllowed := true }

/-- Begins an item of a list. -/
def dash (l : Lexer) : Option Lexer := do
  if !l.bracketed && !l.keyAllowed then none
  else
    let l ← (l.roll l.cursor.column l.tokens.size .listStart).dropKey
    return { l.single 1 .dash with keyAllowed := true }

/-- Begins a key that is announced by a question mark. -/
def explicitKey (l : Lexer) : Option Lexer := do
  if !l.bracketed && !l.keyAllowed then none
  else
    let l ← (l.roll l.cursor.column l.tokens.size .mapStart).dropKey
    return { l.single 1 .key with keyAllowed := !l.bracketed }

/-- Begins a value: announces the key before it, if one may have begun. -/
def value (l : Lexer) : Option Lexer :=
  match l.keyPlace with
  | some place =>
    let l := l.pushAt place.tokens .key
    let l := l.roll place.place.column place.tokens .mapStart
    some { (l.setKeyPlace none).single 1 .value with keyAllowed := false }
  | none =>
    if l.bracketed then some { l.single 1 .value with keyAllowed := false }
    else if l.keyAllowed then
      let l := l.roll l.cursor.column l.tokens.size .mapStart
      some { l.single 1 .value with keyAllowed := true }
    else none

/-- Whether a character may stand in the name of an anchor. -/
def isNameChar (c : Char) : Bool :=
  c.isAlphanum || c == '_' || c == '-'

/-- Reads the name of an anchor or of a reference to one. -/
def named (l : Lexer) (token : String → Token) : Option Lexer := do
  let l ← l.noteKey
  let name := (l.cursor.rest.drop 1).takeWhile isNameChar
  let c := l.cursor.skip (name.length + 1)
  let ends := endsWord c.rest ||
    (c.rest.head?.any fun ch => "?:,]\x7d%@`".toList.contains ch)
  if name.isEmpty || !ends then none
  else return { l.push (token (String.ofList name)) with keyAllowed := false, cursor := c }

/-- Reads a tag. A tag with one exclamation mark is local and keeps it; one with two names a
standard type. -/
def tag (l : Lexer) : Option Lexer := do
  let l ← l.noteKey
  let word := l.cursor.rest.takeWhile fun ch =>
    !isSpace ch && !isBreak ch && !(l.bracketed && isBracketMark ch)
  let name ← match word with
    | '!' :: '<' :: rest =>
      if rest.getLast? = some '>' then some rest.dropLast else none
    | '!' :: '!' :: rest =>
      if rest.isEmpty || rest.contains '!' then none
      else some ("tag:yaml.org,2002:".toList ++ rest)
    | '!' :: rest => if rest.contains '!' then none else some ('!' :: rest)
    | _ => none
  return { l.push (.tag (String.ofList name)) with
    keyAllowed := false, cursor := l.cursor.skip word.length }

/-- Reads a scalar that is written as a block of lines. -/
def block (l : Lexer) (literal : Bool) : Option Lexer := do
  let l ← l.dropKey
  let (text, c) ← readBlock literal l.indent l.cursor.next
  return { l.push (.scalar (String.ofList text.reverse) false) with
    keyAllowed := true, cursor := c }

/-- Reads a scalar between quotes. -/
def quoted (l : Lexer) (quote : Char) : Option Lexer := do
  let l ← l.noteKey
  let (text, c) ← readQuoted quote (l.cursor.rest.length + 1) l.cursor.next []
  return { l.push (.scalar (String.ofList text.reverse) false) with
    keyAllowed := false, cursor := c }

/-- Reads a plain scalar. After one that ended with its line a key may begin. -/
def plain (l : Lexer) : Option Lexer := do
  let l ← l.noteKey
  let (text, lineEnded, c) ←
    readPlain l.bracketed (l.indent + 1) (l.cursor.rest.length + 1) l.cursor .none []
  return { l.push (.scalar (String.ofList text.reverse) true) with
    keyAllowed := lineEnded, cursor := c }

/-- Ends the text. -/
def finish (l : Lexer) : Option Lexer := do
  let l ← (l.unroll (-1)).dropKey
  return { l with finished := true }

/-- Whether a plain scalar may begin with the character before `rest`. -/
def beginsPlain (l : Lexer) (ch : Char) (rest : List Char) : Bool :=
  !("-?:,[]\x7b\x7d#&*!|>'\"%@`".toList.contains ch) ||
    (ch == '-' && !(rest.head?.any isSpace)) ||
    (!l.bracketed && (ch == '?' || ch == ':') && !endsWord rest)

/-- Reads the next token. -/
def next (l : Lexer) : Option Lexer := do
  let (c, lineEnded) :=
    l.cursor.toToken l.bracketed l.keyAllowed (l.cursor.rest.length + 1) false
  let l := { l with
    cursor := c, keyAllowed := l.keyAllowed || (lineEnded && !l.bracketed) }
  let l ← l.forgetOldKeys
  let l := l.unroll l.cursor.column
  match l.cursor.rest with
  | [] => l.finish
  | ch :: rest =>
    if l.cursor.column = 0 ∧ ch = '%' then l.directive
    else if l.cursor.column = 0 ∧ marksDocument '-' l.cursor.rest then l.documentMark .documentStart
    else if l.cursor.column = 0 ∧ marksDocument '.' l.cursor.rest then l.documentMark .documentEnd
    else if ch = '[' then l.openBracket .bracketOpen
    else if ch = '\x7b' then l.openBracket .braceOpen
    else if ch = ']' then l.closeBracket .bracketClose
    else if ch = '\x7d' then l.closeBracket .braceClose
    else if ch = ',' then l.comma
    else if ch = '-' ∧ endsWord rest then l.dash
    else if ch = '?' ∧ (l.bracketed ∨ endsWord rest) then l.explicitKey
    else if ch = ':' ∧ (l.bracketed ∨ endsWord rest) then l.value
    else if ch = '*' then l.named .reference
    else if ch = '&' then l.named .anchor
    else if ch = '!' then l.tag
    else if ch = '|' ∧ !l.bracketed then l.block true
    else if ch = '>' ∧ !l.bracketed then l.block false
    else if ch = '\'' then l.quoted '\''
    else if ch = '"' then l.quoted '"'
    else if !endsWord [ch] && l.beginsPlain ch rest then l.plain
    else none

/-- Reads tokens to the end of the text. -/
def run : (fuel : Nat) → Lexer → Option Lexer
  | 0, _ => none
  | fuel + 1, l => if l.finished then some l else l.next.bind (run fuel)

end Lexer

/-- Whether a character may stand in a text at all. -/
def isAllowed (c : Char) : Bool :=
  let n := c.toNat
  n == 9 || n == 10 || n == 13 || (32 ≤ n && n ≤ 0x7E) || n == 0x85 || (0xA0 ≤ n && n ≤ 0xD7FF) ||
    (0xE000 ≤ n && n ≤ 0xFFFD && n != 0xFEFF) || 0x10000 ≤ n

/-- The tokens of a text, unless it is faulty. -/
def tokens? (text : String) : Option (List Token) :=
  let cs := match text.toList with
    | c :: rest => if c.toNat = 0xFEFF then rest else c :: rest
    | [] => []
  if cs.all isAllowed then
    ((Lexer.start cs).run (2 * cs.length + 4)).map fun l => l.tokens.toList
  else none

end CloudCollector.Yaml
