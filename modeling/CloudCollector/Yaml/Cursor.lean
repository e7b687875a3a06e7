/-!
# Places in YAML text

A cursor is a place in a text: what is still to be read, and the index, line and column that
decide about indentation and about the length of keys.
-/

namespace CloudCollector.Yaml

/-- A place in a text. -/
structure Cursor where
  /-- What is still to be read. -/
  rest : List Char
  /-- How many characters were read. -/
  index : Nat
  /-- How many lines were read. -/
  line : Nat
  /-- How many characters of the line were read. -/
  column : Nat

/-- Whether a character separates words within a line. -/
def isSpace (c : Char) : Bool :=
  c == ' ' || c == '\t'

/-- Whether a character ends a line. -/
def isBreak (c : Char) : Bool :=
  c == '\n' || c == '\r' || c.toNat == 0x85 || c.toNat == 0x2028 || c.toNat == 0x2029

/-- Whether a word ends in front of the text. -/
def endsWord : List Char → Bool
  | [] => true
  | c :: _ => isSpace c || isBreak c

/-- Whether a line ends in front of the text. -/
def endsLine : List Char → Bool
  | [] => true
  | c :: _ => isBreak c

/-- Whether the text starts with a line that separates documents, given the mark of such a
line. -/
def marksDocument (mark : Char) : List Char → Bool
  | a :: b :: c :: rest => a == mark && b == mark && c == mark && endsWord rest
  | _ => false

namespace Cursor

/-- The start of a text. -/
def start (text : List Char) : Cursor :=
  ⟨text, 0, 0, 0⟩

/-- Passes over one character of a line. -/
def next (c : Cursor) : Cursor :=
  { c with rest := c.rest.drop 1, index := c.index + 1, column := c.column + 1 }

/-- Passes over `n` characters of a line. -/
def skip (c : Cursor) (n : Nat) : Cursor :=
  { c with rest := c.rest.drop n, index := c.index + n, column := c.column + n }

/-- Passes over the end of a line, which is shown as what it stands for in a scalar. -/
def nextLine (c : Cursor) : List Char × Cursor :=
  match c.rest with
  | '\r' :: '\n' :: rest => (['\n'], ⟨rest, c.index + 2, c.line + 1, 0⟩)
  | b :: rest =>
    (if b.toNat == 0x2028 || b.toNat == 0x2029 then [b] else ['\n'],
      ⟨rest, c.index + 1, c.line + 1, 0⟩)
  | [] => ([], c)

/-- Passes over the characters of a line that satisfy `p`. -/
def skipWhile (c : Cursor) (p : Char → Bool) : Cursor :=
  c.skip (c.rest.takeWhile p).length

/-- Whether the cursor stands at the start of a line that separates documents. -/
def atDocumentMark (c : Cursor) : Bool :=
  c.column == 0 && (marksDocument '-' c.rest || marksDocument '.' c.rest)

/-- Passes over spaces, comments and empty lines to the next token. A tab may only stand where no
key can begin: between brackets, or after something else on the line. The flag of the result
tells whether a line ended on the way. -/
def toToken (bracketed keyAllowed : Bool) : (fuel : Nat) → Cursor → (lineEnded : Bool) →
    Cursor × Bool
  | 0, c, lineEnded => (c, lineEnded)
  | fuel + 1, c, lineEnded =>
    match c.rest with
    | [] => (c, lineEnded)
    | ch :: _ =>
      if ch == ' ' || (ch == '\t' && (bracketed || !(keyAllowed || lineEnded))) then
        toToken bracketed keyAllowed fuel c.next lineEnded
      else if ch == '#' then
        toToken bracketed keyAllowed fuel (c.skipWhile fun ch => !isBreak ch) lineEnded
      else if isBreak ch then toToken bracketed keyAllowed fuel c.nextLine.2 true
      else (c, lineEnded)

end Cursor

end CloudCollector.Yaml
