import SnippetTutor.Number.Power

/-!
# Doubles as exact numbers

A finite double is a mantissa times a power of two. `decompose` takes a double apart into sign
and magnitude; `nearest?` goes the other way and rounds a ratio of natural numbers to the nearest
double, halves to the even mantissa, failing when the result would lie outside the range.
-/

namespace SnippetTutor.Number

/-- The size of a double. -/
inductive Magnitude where
  /-- The number `mantissa * 2 ^ exponent`. -/
  | finite (mantissa : Nat) (exponent : Int)
  | infinite
  | notANumber
  deriving DecidableEq, Repr

/-- Whether a double carries a minus sign, and its size. -/
def decompose (x : Float) : Bool × Magnitude :=
  let bits := x.toBits.toNat
  let negative := twoTo 63 ≤ bits
  let exponent : Nat := bits / twoTo 52 % twoTo 11
  let fraction : Nat := bits % twoTo 52
  let magnitude :=
    if exponent == 2047 then if fraction == 0 then .infinite else .notANumber
    else if exponent == 0 then .finite fraction (-1074)
    else .finite (fraction + twoTo 52) (Int.ofNat exponent - 1075)
  (negative, magnitude)

/-- The double `mantissa * 2 ^ exponent`, for a mantissa of at most 53 bits that has all of them
unless the exponent is the least one. -/
def compose (mantissa : Nat) (exponent : Int) : Float :=
  if mantissa < twoTo 52 then Float.ofBits (UInt64.ofNat mantissa)
  else Float.ofBits (UInt64.ofNat ((exponent + 1075).toNat * twoTo 52 + (mantissa - twoTo 52)))

/-- The ratio `num / den` divided by `2 ^ exponent`, as a ratio. -/
def scaled (num den : Nat) (exponent : Int) : Nat × Nat :=
  if 0 ≤ exponent then (num, den * twoTo exponent.toNat) else (num * twoTo (-exponent).toNat, den)

/-- A ratio rounded to the nearest whole number, halves to the even one. -/
def roundEven (num den : Nat) : Nat :=
  let whole := num / den
  let twice := 2 * (num % den)
  if den < twice || (twice == den && whole % 2 == 1) then whole + 1 else whole

/-- The double nearest to `num / den`, or nothing when it is out of range. -/
def nearest? (num den : Nat) : Option Float :=
  if num == 0 then some 0.0
  else
    let estimate : Int := max (Int.ofNat num.log2 - Int.ofNat den.log2 - 53) (-1074)
    let start := scaled num den estimate
    let exponent := if start.1 / start.2 < twoTo 53 then estimate else estimate + 1
    let ratio := scaled num den exponent
    let rounded := roundEven ratio.1 ratio.2
    let (mantissa, exponent) :=
      if rounded == twoTo 53 then (twoTo 52, exponent + 1) else (rounded, exponent)
    if 971 < exponent then none else some (compose mantissa exponent)

end SnippetTutor.Number
