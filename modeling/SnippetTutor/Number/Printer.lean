import SnippetTutor.Number.Shortest

/-!
# Doubles as text

* `scientificOrPlain` writes the shortest decimal that reads back: positionally when the exponent
  of the leading digit is at least -4 and below 16, with a fraction of at least one digit, and
  otherwise with an exponent of at least two digits;
* `amount` writes a whole number with all its digits and no fraction, and any other number as
  above.
-/

namespace SnippetTutor.Number

/-- Drops trailing zeros. -/
def Decimal.trimmed (digits : List Char) : List Char :=
  (digits.reverse.dropWhile (· == '0')).reverse

/-- A decimal with the fewest digits, laid out. -/
def Decimal.layout (decimal : Decimal) : String :=
  let all := Nat.toDigits 10 decimal.digits
  let digits := trimmed all
  -- The value is 0.digits times ten to this power.
  let point : Int := all.length + decimal.exponent
  let exponent := point - 1
  if -4 ≤ exponent && exponent < 16 then
    if point ≤ 0 then
      String.ofList ('0' :: '.' :: List.replicate (-point).toNat '0' ++ digits)
    else
      let padded := digits ++ List.replicate (point.toNat - digits.length) '0'
      let fraction := padded.drop point.toNat
      String.ofList (padded.take point.toNat ++ '.' :: if fraction.isEmpty then ['0'] else fraction)
  else
    let mantissa := digits.take 1 ++ if digits.length ≤ 1 then [] else '.' :: digits.drop 1
    let power := Nat.toDigits 10 exponent.natAbs
    let power := if power.length < 2 then '0' :: power else power
    String.ofList (mantissa ++ 'e' :: (if exponent < 0 then '-' else '+') :: power)

/-- The shortest text that reads back as the double. -/
def scientificOrPlain (x : Float) : String :=
  let (negative, magnitude) := decompose x
  let sign := if negative then "-" else ""
  match magnitude with
  | .notANumber => "nan"
  | .infinite => sign ++ "inf"
  | .finite 0 _ => sign ++ "0.0"
  | .finite mantissa exponent => sign ++ (shortest mantissa exponent).layout

/-- The whole number that a double is, if it is one. -/
def whole? (x : Float) : Option Int :=
  match decompose x with
  | (negative, .finite mantissa exponent) =>
    let signed : Nat → Int := fun n => if negative then -Int.ofNat n else Int.ofNat n
    if 0 ≤ exponent then some (signed (mantissa * twoTo exponent.toNat))
    else
      let unit := twoTo (-exponent).toNat
      if mantissa % unit == 0 then some (signed (mantissa / unit)) else none
  | _ => none

/-- A whole number without fraction, any other number with the fewest digits. -/
def amount (x : Float) : String :=
  match whole? x with
  | some n => toString n
  | none => scientificOrPlain x

end SnippetTutor.Number
