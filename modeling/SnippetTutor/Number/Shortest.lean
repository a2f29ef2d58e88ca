import SnippetTutor.Number.Binary64

/-!
# Shortest decimals

The decimal with the fewest digits that lies in the rounding interval of a double: the numbers
between the half-way points to its two neighbours, the half-way points themselves counted when
the mantissa is even. For one digit, two digits and so on, the two multiples of the last digit's
unit around the value are tried; the nearer of those that fit is taken.
-/

namespace SnippetTutor.Number

/-- A decimal `digits * 10 ^ exponent`. -/
structure Decimal where
  digits : Nat
  exponent : Int
  deriving DecidableEq, Repr

/-- The number of decimal digits of a natural number. -/
def digitCount (n : Nat) : Nat := (Nat.toDigits 10 n).length

/-- The exponent of the leading digit of `num / den`, for a positive ratio. -/
def leadingExponent (num den : Nat) : Int :=
  if den ≤ num then Int.ofNat (digitCount (num / den)) - 1
  else
    let places := ((List.range 400).find? fun places => den ≤ num * tenTo places).getD 400
    Int.negOfNat places

/-- The numbers that round to one double, with the double itself, as multiples of `1 / den`. -/
structure Rounding where
  low : Nat
  value : Nat
  high : Nat
  den : Nat
  /-- Whether the ends belong to the interval. -/
  inclusive : Bool

/-- The interval of numbers that round to `mantissa * 2 ^ exponent`. Ends are counted in quarters
of a unit in the last place; below a power of two the neighbour is half as far away. -/
def Rounding.of (mantissa : Nat) (exponent : Int) : Rounding :=
  let scale := exponent - 2
  let whole := fun quarters => quarters * twoTo scale.toNat
  let margin := if mantissa == twoTo 52 && -1074 < exponent then 1 else 2
  { low := whole (4 * mantissa - margin)
    value := whole (4 * mantissa)
    high := whole (4 * mantissa + 2)
    den := twoTo (-scale).toNat
    inclusive := mantissa % 2 == 0 }

/-- The best multiple of `10 ^ place` in the interval, if there is one. -/
def Rounding.atPlace? (range : Rounding) (place : Int) : Option Decimal :=
  let factor := tenTo (-place).toNat
  let unit := range.den * tenTo place.toNat
  let fits := fun candidate =>
    let low := range.low * factor
    let high := range.high * factor
    if range.inclusive then low ≤ candidate * unit && candidate * unit ≤ high
    else low < candidate * unit && candidate * unit < high
  let below := range.value * factor / unit
  let twice := 2 * (range.value * factor % unit)
  match fits below, fits (below + 1) with
  | true, true =>
    let up := unit < twice || (twice == unit && below % 2 == 1)
    some ⟨if up then below + 1 else below, place⟩
  | true, false => some ⟨below, place⟩
  | false, true => some ⟨below + 1, place⟩
  | false, false => none

/-- The shortest decimal for the positive double `mantissa * 2 ^ exponent`. -/
def shortest (mantissa : Nat) (exponent : Int) : Decimal :=
  let range := Rounding.of mantissa exponent
  let lead := leadingExponent range.value range.den
  ((List.range 17).findSome? fun dropped => range.atPlace? (lead - Int.ofNat dropped)).getD
    ⟨mantissa, exponent⟩

end SnippetTutor.Number
