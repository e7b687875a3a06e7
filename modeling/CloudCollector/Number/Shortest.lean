import CloudCollector.Number.Binary64

/-!
# The shortest decimal of a double

Every finite double owns an interval of reals, those that round to it. Its shortest decimal is
the number in that interval with the fewest digits; of two with equally many, the nearer one to
the double. A decimal grid with a point in the interval has one of the double's two neighbours
on that grid in it, so for each number of digits only two candidates are tried.
-/

namespace CloudCollector.Binary64

/-- A decimal number `0.d₁d₂… * 10 ^ point`, given by its digits. -/
structure Decimal where
  /-- The digits, with neither a leading nor a trailing zero. -/
  digits : List Char
  /-- The place of the decimal point, counted from before the first digit. -/
  point : Int
  deriving DecidableEq

/-- The reals that round to a positive double, times a common denominator: the double itself, the
ends of its interval, and whether the ends belong to it. -/
structure Interval where
  /-- The double. -/
  value : Nat
  /-- The lower end. -/
  lower : Nat
  /-- The upper end. -/
  upper : Nat
  /-- The common denominator. -/
  den : Nat
  /-- Whether the ends round to the double. -/
  closed : Bool

/-- The interval of the double with the given fields. The lower neighbour is half as far away
when the significand is the least of its exponent. -/
def interval (exponent : Fin 2047) (fraction : Fin hiddenBit) : Interval :=
  let m := significand exponent fraction
  let lower := if fraction.val = 0 ∧ 1 < exponent.val then 4 * m - 1 else 4 * m - 2
  let e := scale exponent - 2
  let up := if 0 ≤ e then twoTo e.toNat else 1
  ⟨4 * m * up, lower * up, (4 * m + 2) * up, if 0 ≤ e then 1 else twoTo (-e).toNat, m % 2 == 0⟩

/-- `a * 10 ^ e` as a numerator and a denominator. -/
def timesPowerOfTen (a : Nat) (e : Int) : Nat × Nat :=
  if 0 ≤ e then (a * tenTo e.toNat, 1) else (a, tenTo (-e).toNat)

/-- Whether `a * 10 ^ e` lies in the interval. -/
def Interval.holds (i : Interval) (a : Nat) (e : Int) : Bool :=
  let (num, den) := timesPowerOfTen a e
  let x := num * i.den
  if i.closed then i.lower * den ≤ x && x ≤ i.upper * den
  else i.lower * den < x && x < i.upper * den

/-- The number of digits before the decimal point of `num / den`, or minus the number of zeros
after it: the `p` with `10 ^ (p - 1) ≤ num / den < 10 ^ p`. -/
def decimalPoint (num den : Nat) : Int :=
  let guess : Int := ((Nat.log2 num : Int) - Nat.log2 den) * 1233 / 4096
  let below (p : Int) : Bool :=
    if 0 ≤ p then num < den * tenTo p.toNat else num * tenTo (-p).toNat < den
  if below (guess - 1) then guess - 1
  else if below guess then guess
  else if below (guess + 1) then guess + 1
  else if below (guess + 2) then guess + 2
  else guess + 3

/-- The point of the grid of multiples of `10 ^ e` that lies in the interval and nearest to its
double, if there is one. -/
def Interval.onGrid (i : Interval) (e : Int) : Option Nat :=
  let (num, den) :=
    if 0 ≤ e then (i.value, i.den * tenTo e.toNat) else (i.value * tenTo (-e).toNat, i.den)
  let under := num / den
  let rest := 2 * (num % den)
  let preferUnder := rest < den || (rest == den && under % 2 == 0)
  match i.holds under e, i.holds (under + 1) e with
  | true, true => some (if preferUnder then under else under + 1)
  | true, false => some under
  | false, true => some (under + 1)
  | false, false => none

/-- Tries grids with more and more digits. -/
def Interval.search (i : Interval) (point : Int) : Nat → Nat → Nat × Int
  | 0, digits => (i.value / i.den, point - digits)
  | fuel + 1, digits =>
    match i.onGrid (point - digits) with
    | some a => (a, point - digits)
    | none => i.search point fuel (digits + 1)

/-- Writes `a * 10 ^ e` as digits and the place of the point. -/
def Decimal.ofScaled (a : Nat) (e : Int) : Decimal :=
  let all := Nat.toDigits 10 a
  ⟨(all.reverse.dropWhile (· == '0')).reverse, all.length + e⟩

/-- The shortest decimal that rounds to the positive double with the given fields. Seventeen
digits always suffice. -/
def shortest (exponent : Fin 2047) (fraction : Fin hiddenBit) : Decimal :=
  let i := interval exponent fraction
  let (a, e) := i.search (decimalPoint i.value i.den) 17 1
  .ofScaled a e

/-- How decimals are written out. -/
structure DecimalFormat where
  /-- The least place of the point that is written positionally. -/
  leastPoint : Int
  /-- The greatest place of the point that is written positionally. -/
  greatestPoint : Int
  /-- Whether a positive exponent carries its sign. -/
  plus : Bool
  /-- What stands for an empty fractional part. -/
  whole : List Char

/-- Writes a decimal in a format. -/
def DecimalFormat.write (format : DecimalFormat) (d : Decimal) : List Char :=
  if format.leastPoint ≤ d.point ∧ d.point ≤ format.greatestPoint then
    if d.point ≤ 0 then '0' :: '.' :: (List.replicate (-d.point).toNat '0' ++ d.digits)
    else
      let front := d.digits.take d.point.toNat
      let back := d.digits.drop d.point.toNat
      let zeros := List.replicate (d.point.toNat - front.length) '0'
      front ++ zeros ++ (if back.isEmpty then format.whole else '.' :: back)
  else
    let mantissa := match d.digits with
      | [] => []
      | first :: [] => [first]
      | first :: rest => first :: '.' :: rest
    let exponent := d.point - 1
    let sign := if exponent < 0 then ['-'] else if format.plus then ['+'] else []
    mantissa ++ 'e' :: sign ++ Nat.toDigits 10 exponent.natAbs

/-- Writes a finite number in a format, a zero as `0` and its fractional part. -/
def DecimalFormat.finite (format : DecimalFormat) (negative : Bool) (exponent : Fin 2047)
    (fraction : Fin hiddenBit) : List Char :=
  let sign := if negative then ['-'] else []
  if significand exponent fraction = 0 then sign ++ '0' :: format.whole
  else sign ++ format.write (shortest exponent fraction)

end CloudCollector.Binary64
