import CloudCollector.Yaml.Cursor
import CloudCollector.Json.Outline

/-!
# Scalars of YAML text

A scalar is written plainly, between quotes, or as a block of lines. Its lines are folded: a
single line end becomes a space, and of several the first is dropped. Characters are collected
in reverse.
-/

namespace CloudCollector.Yaml

/-- White space between two words of a scalar. -/
structure Gap where
  /-- Blanks before the first line end, in reverse. -/
  blanks : List Char
  /-- Whether a line ended. -/
  broken : Bool
  /-- The first line end. -/
  firstBreak : List Char
  /-- The later line ends, in reverse. -/
  laterBreaks : List Char

namespace Gap

/-- No white space. -/
def none : Gap := ⟨[], false, [], []⟩

/-- White space in which a line end was already dropped. -/
def afterDroppedBreak : Gap := ⟨[], true, [], []⟩

/-- What the white space stands for in the scalar, in reverse. -/
def fold (g : Gap) : List Char :=
  if g.broken then
    if g.firstBreak = ['\n'] then
      if g.laterBreaks.isEmpty then [' '] else g.laterBreaks
    else g.laterBreaks ++ g.firstBreak
  else g.blanks

/-- Reads white space. In the lines after the first, a tab left of column `tabLimit` is
refused. -/
def read (tabLimit : Int) : (fuel : Nat) → Cursor → Gap → Option (Gap × Cursor)
  | 0, _, _ => .none
  | fuel + 1, c, g =>
    match c.rest with
    | [] => some (g, c)
    | ch :: _ =>
      if isSpace ch then
        if g.broken then
          if ch == '\t' && decide ((c.column : Int) < tabLimit) then .none
          else read tabLimit fuel c.next g
        else read tabLimit fuel c.next { g with blanks := ch :: g.blanks }
      else if isBreak ch then
        let (shown, c) := c.nextLine
        if g.broken then
          read tabLimit fuel c { g with laterBreaks := shown.reverse ++ g.laterBreaks }
        else read tabLimit fuel c { g with blanks := [], broken := true, firstBreak := shown }
      else some (g, c)

end Gap

/-- Characters that structure a list or map between brackets. -/
def isBracketMark (c : Char) : Bool :=
  c == ',' || c == '[' || c == ']' || c == '\x7b' || c == '\x7d'

/-- Reads one word of a plain scalar. Between brackets a colon may not touch a mark. -/
def readPlainWord (bracketed : Bool) : (fuel : Nat) → Cursor → List Char →
    Option (List Char × Cursor)
  | 0, _, _ => none
  | fuel + 1, c, read =>
    match c.rest with
    | [] => some (read, c)
    | ':' :: rest =>
      if bracketed && (match rest with | ch :: _ => isBracketMark ch || ch == '?' | [] => false)
      then none
      else if endsWord rest then some (read, c)
      else readPlainWord bracketed fuel c.next (':' :: read)
    | ch :: _ =>
      if isSpace ch || isBreak ch || (bracketed && isBracketMark ch) then some (read, c)
      else readPlainWord bracketed fuel c.next (ch :: read)

/-- Reads a plain scalar that belongs to a block indented by less than `indent`. The flag of the
result tells whether the line of its last word ended. -/
def readPlain (bracketed : Bool) (indent : Int) : (fuel : Nat) → Cursor → Gap → List Char →
    Option (List Char × Bool × Cursor)
  | 0, _, _, _ => none
  | fuel + 1, c, gap, read =>
    if c.atDocumentMark || c.rest.head? == some '#' then some (read, gap.broken, c)
    else
      match readPlainWord bracketed (c.rest.length + 1) c [] with
      | none => none
      | some ([], c) => some (read, gap.broken, c)
      | some (word, c) =>
        let read := word ++ gap.fold ++ read
        if c.rest.isEmpty || !endsWord c.rest then some (read, false, c)
        else
          match Gap.read indent (c.rest.length + 1) c .none with
          | none => none
          | some (gap, c) =>
            if !bracketed && decide ((c.column : Int) < indent) then some (read, gap.broken, c)
            else readPlain bracketed indent fuel c gap read

/-- The characters that one letter after a backslash stands for between double quotes. -/
def escapedBy? (c : Char) : Option Char :=
  match c with
  | '0' => some '\x00'
  | 'a' => some '\x07'
  | 'b' => some '\x08'
  | 't' | '\t' => some '\t'
  | 'n' => some '\n'
  | 'v' => some '\x0b'
  | 'f' => some '\x0c'
  | 'r' => some '\r'
  | 'e' => some '\x1b'
  | ' ' => some ' '
  | '"' => some '"'
  | '/' => some '/'
  | '\\' => some '\\'
  | 'N' => some (Char.ofNat 0x85)
  | '_' => some (Char.ofNat 0xA0)
  | 'L' => some (Char.ofNat 0x2028)
  | 'P' => some (Char.ofNat 0x2029)
  | _ => none

/-- How many hexadecimal digits follow a letter after a backslash. -/
def escapeLength? (c : Char) : Option Nat :=
  match c with
  | 'x' => some 2
  | 'u' => some 4
  | 'U' => some 8
  | _ => none

/-- How a run of characters between quotes ends. -/
inductive RunEnd where
  /-- At the closing quote or at white space. -/
  | mark
  /-- At a line end that a backslash drops. -/
  | droppedBreak

/-- Reads characters between quotes up to white space or the closing quote. -/
def readQuotedRun (quote : Char) : (fuel : Nat) → Cursor → List Char →
    Option (List Char × RunEnd × Cursor)
  | 0, _, _ => none
  | fuel + 1, c, read =>
    match c.rest with
    | [] => some (read, .mark, c)
    | ch :: rest =>
      if isSpace ch || isBreak ch then some (read, .mark, c)
      else if ch == quote then
        if quote == '\'' && rest.head? == some '\'' then
          readQuotedRun quote fuel (c.skip 2) ('\'' :: read)
        else some (read, .mark, c)
      else if quote == '"' && ch == '\\' then
        match rest with
        | [] => none
        | e :: digits =>
          if isBreak e then some (read, .droppedBreak, c.next.nextLine.2)
          else
            match escapedBy? e, escapeLength? e with
            | some shown, _ => readQuotedRun quote fuel (c.skip 2) (shown :: read)
            | none, some n =>
              match Json.hexNumber? (digits.take n) with
              | none => none
              | some code =>
                if (digits.take n).length = n ∧ code.isValidChar then
                  readQuotedRun quote fuel (c.skip (n + 2)) (Char.ofNat code :: read)
                else none
            | none, none => none
      else readQuotedRun quote fuel c.next (ch :: read)

/-- Reads a scalar after its opening quote. -/
def readQuoted (quote : Char) : (fuel : Nat) → Cursor → List Char → Option (List Char × Cursor)
  | 0, _, _ => none
  | fuel + 1, c, read =>
    if c.atDocumentMark || c.rest.isEmpty then none
    else
      match readQuotedRun quote (c.rest.length + 1) c read with
      | none => none
      | some (read, ending, c) =>
        if c.rest.head? == some quote && (match ending with | .mark => true | _ => false) then
          some (read, c.next)
        else
          let gap := match ending with
            | .mark => Gap.none
            | .droppedBreak => .afterDroppedBreak
          match Gap.read 0 (c.rest.length + 1) c gap with
          | none => none
          | some (gap, c) => readQuoted quote fuel c (gap.fold ++ read)

/-- What happens to the line ends after a block of lines. -/
inductive Chomping where
  /-- One is kept. -/
  | clip
  /-- None is kept. -/
  | strip
  /-- All are kept. -/
  | keep

/-- Reads the header of a block of lines: how its end is chomped, and its indentation if that is
given. -/
def readBlockHeader (c : Cursor) : Option (Chomping × Nat × Cursor) :=
  let chomping? (ch : Char) : Option Chomping :=
    if ch == '+' then some .keep else if ch == '-' then some .strip else none
  let digit? (ch : Char) : Option Nat :=
    if ch.isDigit then some (ch.toNat - '0'.toNat) else none
  let (chomping, increment, c) : Chomping × Option Nat × Cursor :=
    match c.rest with
    | a :: rest =>
      match chomping? a, digit? a with
      | some chomping, _ =>
        match rest.head?.bind digit? with
        | some n => (chomping, some n, c.skip 2)
        | none => (chomping, none, c.next)
      | none, some n =>
        match rest.head?.bind chomping? with
        | some chomping => (chomping, some n, c.skip 2)
        | none => (.clip, some n, c.next)
      | none, none => (.clip, none, c)
    | [] => (.clip, none, c)
  if increment = some 0 then none
  else
    let c := c.skipWhile isSpace
    let c := if c.rest.head? == some '#' then c.skipWhile fun ch => !isBreak ch else c
    if endsLine c.rest then some (chomping, increment.getD 0, c.nextLine.2) else none

/-- Reads the indentation and the empty lines in front of a line of a block. While the
indentation is unknown (zero), the deepest column is kept in `deepest`. -/
def readBlockBreaks (indent : Nat) : (fuel : Nat) → Cursor → (deepest : Nat) → List Char →
    Option (Nat × List Char × Cursor)
  | 0, _, _, _ => none
  | fuel + 1, c, deepest, breaks =>
    let blanks := (c.rest.takeWhile (· == ' ')).length
    let c := c.skip (if indent = 0 then blanks else min blanks (indent - c.column))
    let deepest := max deepest c.column
    if (indent = 0 ∨ c.column < indent) ∧ c.rest.head? = some '\t' then none
    else
      match c.rest with
      | ch :: _ =>
        if isBreak ch then
          let (shown, c) := c.nextLine
          readBlockBreaks indent fuel c deepest (shown.reverse ++ breaks)
        else some (deepest, breaks, c)
      | [] => some (deepest, breaks, c)

/-- Reads the lines of a block indented by `indent`. -/
def readBlockLines (literal : Bool) (indent : Nat) : (fuel : Nat) → Cursor →
    (read leadingBreak laterBreaks : List Char) → (blankBefore : Bool) →
    Option (List Char × List Char × List Char × Cursor)
  | 0, _, _, _, _, _ => none
  | fuel + 1, c, read, leadingBreak, laterBreaks, blankBefore =>
    match c.rest with
    | [] => some (read, leadingBreak, laterBreaks, c)
    | ch :: _ =>
      if c.column != indent then some (read, leadingBreak, laterBreaks, c)
      else
        let blank := isSpace ch
        let joined :=
          if !literal && leadingBreak == ['\n'] && !blankBefore && !blank then
            if laterBreaks.isEmpty then [' '] else []
          else leadingBreak
        let line := c.rest.takeWhile fun ch => !isBreak ch
        let read := line.reverse ++ laterBreaks ++ joined ++ read
        let (shown, c) := (c.skip line.length).nextLine
        match readBlockBreaks indent (c.rest.length + 1) c 0 [] with
        | none => none
        | some (_, breaks, c) => readBlockLines literal indent fuel c read shown breaks blank

/-- Reads a block of lines after its mark, inside a block indented by `outer`. -/
def readBlock (literal : Bool) (outer : Int) (c : Cursor) : Option (List Char × Cursor) :=
  match readBlockHeader c with
  | none => none
  | some (chomping, increment, c) =>
    let given := if increment = 0 then 0 else (max outer 0).toNat + increment
    match readBlockBreaks given (c.rest.length + 1) c 0 [] with
    | none => none
    | some (deepest, breaks, c) =>
      let indent := if given = 0 then max deepest (max (outer + 1) 1).toNat else given
      match readBlockLines literal indent (c.rest.length + 1) c [] [] breaks false with
      | none => none
      | some (read, leadingBreak, laterBreaks, c) =>
        some (match chomping with
          | .strip => read
          | .clip => leadingBreak ++ read
          | .keep => laterBreaks ++ leadingBreak ++ read, c)

end CloudCollector.Yaml
