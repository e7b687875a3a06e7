/-!
# Blank characters

The characters that count as white space around numbers, units and timestamps.
-/

namespace CloudCollector.Text

/-- Whether a character is white space, in ASCII or beyond. -/
def isBlank (c : Char) : Bool :=
  let n := c.toNat
  (9 ≤ n && n ≤ 13) || n == 32 || n == 0x85 || n == 0xA0 || n == 0x1680 ||
    (0x2000 ≤ n && n ≤ 0x200A) || n == 0x2028 || n == 0x2029 || n == 0x202F || n == 0x205F ||
    n == 0x3000

/-- Drops the white space in front. -/
def trimStart (cs : List Char) : List Char :=
  cs.dropWhile isBlank

/-- Drops the white space at both ends. -/
def trim (cs : List Char) : List Char :=
  (trimStart (trimStart cs).reverse).reverse

/-- A character with the same upper-case ASCII letter made lower-case. -/
def toLowerAscii (cs : List Char) : List Char :=
  cs.map Char.toLower

/-- Cuts text at the first `mark`; the mark is in neither part. -/
def cutAt (mark : Char) (cs : List Char) : List Char × List Char :=
  (cs.takeWhile (· != mark), (cs.dropWhile (· != mark)).drop 1)

/-- What follows `front` in text that starts with it. -/
def dropFront? : List Char → List Char → Option (List Char)
  | [], cs => some cs
  | _ :: _, [] => none
  | f :: front, c :: cs => if f = c then dropFront? front cs else none

/-- Nothing but the front is dropped. -/
theorem dropFront?_eq_some_iff {front cs rest : List Char} :
    dropFront? front cs = some rest ↔ cs = front ++ rest := by
  induction front generalizing cs with
  | nil => simp [dropFront?]
  | cons f front ih =>
    cases cs with
    | nil => simp [dropFront?]
    | cons c cs =>
      by_cases h : f = c
      · simp [dropFront?, h, ih]
      · simp [dropFront?, h, Ne.symm h]

end CloudCollector.Text
