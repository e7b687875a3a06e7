/-!
# Double-precision numbers

A double is a sign, an exponent field and a fraction field, an infinity or a value that is no
number. Arithmetic goes through exact fractions of natural numbers: a finite double *is* such a
fraction (`Binary64.fraction?`), and `Binary64.ofRatio` rounds a fraction to the nearest double,
a tie to the even neighbour.
-/

namespace CloudCollector

/-- A double-precision binary floating-point number. -/
inductive Binary64 where
  /-- A finite number: `fraction * 2 ^ (-1074)` when the exponent field is zero, otherwise
  `(2 ^ 52 + fraction) * 2 ^ (exponent - 1075)`. -/
  | finite (negative : Bool) (exponent : Fin 2047) (fraction : Fin 4503599627370496)
  /-- An infinity. -/
  | infinite (negative : Bool)
  /-- The result of an operation that has none. -/
  | notANumber
  deriving DecidableEq

namespace Binary64

/-- The least significand of a number that is not subnormal: `2 ^ 52`. -/
abbrev hiddenBit : Nat := 4503599627370496

/-- Zero, with its sign. -/
def zero (negative : Bool) : Binary64 :=
  .finite negative 0 0

instance : Inhabited Binary64 := ⟨zero false⟩

/-- Whether a double is a finite number. -/
def isFinite : Binary64 → Bool
  | .finite .. => true
  | _ => false

/-- The significand of a finite number with the given fields. -/
def significand (exponent : Fin 2047) (fraction : Fin hiddenBit) : Nat :=
  if exponent.val = 0 then fraction.val else hiddenBit + fraction.val

/-- The power of two that scales the significand of a finite number. -/
def scale (exponent : Fin 2047) : Int :=
  if exponent.val = 0 then -1074 else (exponent.val : Int) - 1075

/-- A power of two. -/
def twoTo (n : Nat) : Nat :=
  Nat.pow 2 n

/-- A power of ten. -/
def tenTo (n : Nat) : Nat :=
  Nat.pow 10 n

/-- `m * 2 ^ e` as a numerator and a denominator. -/
def scaled (m : Nat) (e : Int) : Nat × Nat :=
  if 0 ≤ e then (m * twoTo e.toNat, 1) else (m, twoTo (-e).toNat)

/-- The magnitude of a finite number as a numerator and a denominator. -/
def fraction? : Binary64 → Option (Nat × Nat)
  | .finite _ exponent fraction => some (scaled (significand exponent fraction) (scale exponent))
  | _ => none

/-- Whether the number lies below zero; a negative zero does not. -/
def isNegative : Binary64 → Bool
  | .finite negative exponent fraction => negative && significand exponent fraction != 0
  | .infinite negative => negative
  | .notANumber => false

/-- `num / den` rounded to the nearest natural number, a tie to the even neighbour. -/
def roundDiv (num den : Nat) : Nat :=
  let quotient := num / den
  let rest := 2 * (num % den)
  if den < rest ∨ (rest = den ∧ quotient % 2 = 1) then quotient + 1 else quotient

/-- The finite number `m * 2 ^ e`, for a significand of at most 53 bits that is short only at the
least exponent, or an infinity when it is too large. -/
def assemble (negative : Bool) (m : Nat) (e : Int) : Binary64 :=
  if m < hiddenBit then .finite negative 0 (Fin.ofNat hiddenBit m)
  else
    let field := (e + 1075).toNat
    if field < 2047 then .finite negative (Fin.ofNat 2047 field) (Fin.ofNat hiddenBit m)
    else .infinite negative

/-- The power of two by which the significand of `num / den` is to be scaled: the significand
has 53 bits, or fewer at the least exponent. -/
def exponentFor (num den : Nat) : Int :=
  let guess : Int := (Nat.log2 num : Int) - Nat.log2 den
  let below : Bool :=
    if 0 ≤ guess then decide (num < den * twoTo guess.toNat)
    else decide (num * twoTo (-guess).toNat < den)
  max (guess - (if below then 1 else 0) - 52) (-1074)

/-- The double nearest to `num / den`, a tie to the even neighbour. -/
def ofRatio (negative : Bool) (num den : Nat) : Binary64 :=
  if num = 0 then zero negative
  else
    let e := exponentFor num den
    let m := if 0 ≤ e then roundDiv num (den * twoTo e.toNat)
      else roundDiv (num * twoTo (-e).toNat) den
    if m = 2 * hiddenBit then assemble negative hiddenBit (e + 1) else assemble negative m e

/-- The double nearest to a natural number. -/
def ofNat (n : Nat) : Binary64 :=
  ofRatio false n 1

/-- The double nearest to an integer. -/
def ofInt (n : Int) : Binary64 :=
  ofRatio (decide (n < 0)) n.natAbs 1

/-- The double nearest to `digits * 10 ^ exponent`. Magnitudes far outside the range of doubles
are settled by their number of digits. -/
def ofDecimal (negative : Bool) (digits : Nat) (exponent : Int) : Binary64 :=
  let places : Int := (Nat.toDigits 10 digits).length + exponent
  if digits = 0 then zero negative
  else if places < -400 then zero negative
  else if 400 < places then .infinite negative
  else if 0 ≤ exponent then ofRatio negative (digits * tenTo exponent.toNat) 1
  else ofRatio negative digits (tenTo (-exponent).toNat)

/-- The sum of two numbers that are finite and not negative. -/
def addMagnitudes (a b : Binary64) : Binary64 :=
  match a.fraction?, b.fraction? with
  | some (n, d), some (n', d') => ofRatio false (n * d' + n' * d) (d * d')
  | _, _ => .notANumber

example : ofNat 1 = .finite false 1023 0 := by decide +kernel
example : ofNat 9007199254740993 = ofNat 9007199254740992 := by decide +kernel
example : ofDecimal false 5 (-324) = .finite false 0 1 := by decide +kernel
example : ofDecimal false 18 307 = .infinite false := by decide +kernel

end Binary64

end CloudCollector
