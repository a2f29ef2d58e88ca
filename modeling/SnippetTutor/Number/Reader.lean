import SnippetTutor.Number.Binary64
import SnippetTutor.Text.Blank
import SnippetTutor.Text.Digit

/-!
# Numbers from text

Whole and decimal numbers as a person may type them: white space around them, a sign, digits of
any script, single underscores between digits. The information separators are no white space here.

* `integer?` reads a whole number in base ten of at most `mostDigits` digits, `prefixed?` one in
  base two, eight or sixteen that announces its base with `0b`, `0o` or `0x`;
* `real?` reads a decimal number with optional fraction and exponent, or one of the names of
  infinity and of the number that is none.
-/

namespace SnippetTutor.Number

/-- Digits of every script in their ASCII form; other characters stay. -/
def asciiDigit (c : Char) : Char :=
  match Text.digitValue? c with
  | some value => Char.ofNat (48 + value)
  | none => c

/-- A text without surrounding white space and with ASCII digits. -/
def normalized (text : List Char) : List Char := (Text.trim Text.isPadding text).map asciiDigit

/-- Why a whole number with too many digits is not read. -/
def tooManyDigits (count : Nat) : String :=
  "Exceeds the limit (" ++ toString mostDigits ++ " digits) for integer string conversion: " ++
    "value has " ++ toString count ++ " digits; use sys.set_int_max_str_digits() to increase " ++
    "the limit"

/-- The value of a digit in a base of at most sixteen. -/
def digitIn? (base : Nat) (c : Char) : Option Nat :=
  let value? :=
    if '0' ≤ c && c ≤ '9' then some (c.toNat - 48)
    else if 'a' ≤ c && c ≤ 'f' then some (c.toNat - 87)
    else if 'A' ≤ c && c ≤ 'F' then some (c.toNat - 55)
    else none
  value?.filter (· < base)

/-- Digits with single underscores between them; the value so far is carried along. -/
def digitsFrom? (base : Nat) : Nat → List Char → Option Nat
  | value, [] => some value
  | _, ['_'] => none
  | value, '_' :: c :: rest =>
    (digitIn? base c).bind fun digit => digitsFrom? base (value * base + digit) rest
  | value, c :: rest =>
    (digitIn? base c).bind fun digit => digitsFrom? base (value * base + digit) rest

/-- A non-empty run of digits with single underscores between them. -/
def digits? (base : Nat) : List Char → Option Nat
  | [] => none
  | c :: rest => (digitIn? base c).bind fun digit => digitsFrom? base digit rest

/-- Splits off a sign. -/
def signed : List Char → Bool × List Char
  | '-' :: rest => (true, rest)
  | '+' :: rest => (false, rest)
  | text => (false, text)

/-- The number of digits in a run with underscores. -/
def runLength (text : List Char) : Nat := (text.filter (· != '_')).length

/-- A whole number in base ten. -/
def integer? (text : List Char) : Option Int :=
  let (negative, body) := signed (normalized text)
  if mostDigits < runLength body then none
  else (digits? 10 body).map fun n => if negative then -Int.ofNat n else Int.ofNat n

/-- A natural number after a prefix in lower case that names its base; an underscore may follow
the prefix. -/
def prefixed? (text : List Char) : Option Nat :=
  let after := fun base rest =>
    match rest with
    | '_' :: rest => digits? base rest
    | rest => digits? base rest
  match normalized text with
  | '0' :: 'x' :: rest => after 16 rest
  | '0' :: 'o' :: rest => after 8 rest
  | '0' :: 'b' :: rest => after 2 rest
  | _ => none

/-- The double nearest to `digits * 10 ^ exponent`; infinity when it is out of range. -/
def decimalValue (digits : Nat) (exponent : Int) : Float :=
  let magnitude := exponent + digits.log2 / 3
  if digits == 0 then 0.0
  else if 400 < exponent then 1.0 / 0.0
  else if magnitude < -400 then 0.0
  else
    let ratio :=
      if 0 ≤ exponent then (digits * tenTo exponent.toNat, 1)
      else (digits, tenTo (-exponent).toNat)
    (nearest? ratio.1 ratio.2).getD (1.0 / 0.0)

/-- The digits of a run with underscores, and how many they are; an empty run is allowed. -/
def run? (text : List Char) : Option (Nat × Nat) :=
  if text.isEmpty then some (0, 0)
  else (digits? 10 text).map fun n => (n, runLength text)

/-- An unsigned decimal number. -/
def unsignedReal? (text : List Char) : Option Float :=
  let lowered := text.map Char.toLower
  if lowered == "inf".toList || lowered == "infinity".toList then some (1.0 / 0.0)
  else if lowered == "nan".toList then some (0.0 / 0.0)
  else
    let mantissa := lowered.takeWhile (· != 'e')
    let power? : Option Int :=
      match lowered.dropWhile (· != 'e') with
      | [] => some 0
      | _ :: power =>
        let (negative, body) := signed power
        (digits? 10 body).map fun n => if negative then -Int.ofNat n else Int.ofNat n
    let before := mantissa.takeWhile (· != '.')
    let after := (mantissa.dropWhile (· != '.')).drop 1
    match run? before, run? after, power? with
    | some (high, count), some (low, places), some power =>
      if count + places == 0 then none
      else some (decimalValue (high * tenTo places + low) (power - places))
    | _, _, _ => none

/-- A decimal number. -/
def real? (text : List Char) : Option Float :=
  let (negative, body) := signed (normalized text)
  (unsignedReal? body).map fun x => if negative then -x else x

end SnippetTutor.Number
