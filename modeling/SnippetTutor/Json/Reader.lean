import SnippetTutor.Fault
import SnippetTutor.Json.Basic
import SnippetTutor.Number.Reader
import SnippetTutor.Text.Surrogate

/-!
# Reading JSON

A lenient reader of JSON text: besides the standard values it takes the words `NaN`, `Infinity`
and `-Infinity`. A number without fraction and exponent is a whole number, which may be large but
not have too many digits; every other number is a double. The last of several members with the
same key counts. Control characters must not stand in a string, and nothing but white space may
follow the value.

Every reader takes the characters still to be read and gives the value with the characters left,
or says what is wrong and how many characters were left there. The mutually recursive ones spend
one unit of a budget per call; as each call also reads at least one character, twice the length of
the input is enough.
-/

namespace SnippetTutor.Json

/-- What is wrong with a text. -/
inductive Flaw where
  | noValue
  | noKey
  | noColon
  | noComma
  | openString
  | controlCharacter
  | badEscape
  | badCodeUnit
  | extraData
  | byteOrderMark
  | tooManyDigits (count : Nat)
  deriving DecidableEq, Repr

/-- The words for a flaw. -/
def Flaw.words : Flaw → String
  | noValue => "Expecting value"
  | noKey => "Expecting property name enclosed in double quotes"
  | noColon => "Expecting ':' delimiter"
  | noComma => "Expecting ',' delimiter"
  | openString => "Unterminated string starting at"
  | controlCharacter => "Invalid control character at"
  | badEscape => "Invalid \\escape"
  | badCodeUnit => "Invalid \\uXXXX escape"
  | extraData => "Extra data"
  | byteOrderMark => "Unexpected UTF-8 BOM (decode using utf-8-sig)"
  | tooManyDigits count => Number.tooManyDigits count

/-- Whether a flaw is one of form, so that the text is no JSON at all. -/
def Flaw.isMalformation : Flaw → Bool
  | tooManyDigits _ => false
  | _ => true

/-- A flaw, and the number of characters from it to the end of the text. -/
structure Misreading where
  flaw : Flaw
  left : Nat
  deriving DecidableEq, Repr

/-- Where a flaw is. -/
def Misreading.place (misreading : Misreading) (text : String) : String :=
  let chars := text.toList
  let position := chars.length - misreading.left
  let before := chars.take position
  let line := before.count '\n' + 1
  let column := (before.reverse.takeWhile (· != '\n')).length + 1
  "line " ++ toString line ++ " column " ++ toString column ++ " (char " ++ toString position ++ ")"

/-- What is wrong with a text, and for flaws of form also where. -/
def Misreading.message (misreading : Misreading) (text : String) : String :=
  if misreading.flaw.isMalformation then misreading.flaw.words ++ ": " ++ misreading.place text
  else misreading.flaw.words

/-- The fault that a text which cannot be read is. -/
def Misreading.fault (misreading : Misreading) (text : String) : Fault :=
  ⟨if misreading.flaw.isMalformation then .unreadable else .badValue, misreading.message text⟩

namespace Reader

/-- A flaw in front of the characters left. -/
def flawed {α : Type} (flaw : Flaw) (rest : List Char) : Except Misreading α :=
  .error ⟨flaw, rest.length⟩

/-- Skips white space between the parts of a JSON text. -/
def skip (input : List Char) : List Char :=
  input.dropWhile fun c => c == ' ' || c == '\t' || c == '\n' || c == '\r'

/-- Four hexadecimal digits. -/
def hex4? : List Char → Option (Nat × List Char)
  | a :: b :: c :: d :: rest => do
    let a ← Number.digitIn? 16 a
    let b ← Number.digitIn? 16 b
    let c ← Number.digitIn? 16 c
    let d ← Number.digitIn? 16 d
    some (((a * 16 + b) * 16 + c) * 16 + d, rest)
  | _ => none

/-- The character that a one-letter escape stands for. -/
def escape? : Char → Option Char
  | '"' => some '"'
  | '\\' => some '\\'
  | '/' => some '/'
  | 'b' => some '\x08'
  | 'f' => some '\x0c'
  | 'n' => some '\n'
  | 'r' => some '\r'
  | 't' => some '\t'
  | _ => none

/-- The code unit behind `\u`; something must follow its digits. -/
def codeUnit (input : List Char) : Except Misreading (Nat × List Char) :=
  match hex4? input with
  | some (unit, next :: rest) => .ok (unit, next :: rest)
  | _ => .error ⟨.badCodeUnit, input.length + 1⟩

/-- The character behind `\u`: a high unit with the low unit that follows, or one code unit, which
may be a lone surrogate. -/
def codePoint (input : List Char) : Except Misreading (Char × List Char) := do
  let (unit, rest) ← codeUnit input
  if 0xd800 ≤ unit && unit < 0xdc00 then
    match rest with
    | '\\' :: 'u' :: more =>
      let (low, after) ← codeUnit more
      if 0xdc00 ≤ low && low < 0xe000 then
        return (Char.ofNat (0x10000 + (unit - 0xd800) * 1024 + (low - 0xdc00)), after)
      else return (Text.ofUnit unit, rest)
    | _ => return (Text.ofUnit unit, rest)
  else return (Text.ofUnit unit, rest)

/-- The characters of a string up to its closing quote, in reverse. -/
def stringBody : Nat → List Char → List Char → Except Misreading (List Char × List Char)
  | 0, _, _ => flawed .openString []
  | _ + 1, _, [] => flawed .openString []
  | _ + 1, read, '"' :: rest => .ok (read, rest)
  | _ + 1, _, ['\\'] => flawed .openString []
  | budget + 1, read, '\\' :: 'u' :: rest =>
    match codePoint rest with
    | .ok (c, rest) => stringBody budget (c :: read) rest
    | .error misreading => .error misreading
  | budget + 1, read, '\\' :: c :: rest =>
    match escape? c with
    | some c => stringBody budget (c :: read) rest
    | none => flawed .badEscape ('\\' :: c :: rest)
  | budget + 1, read, c :: rest =>
    if c.toNat < 0x20 then flawed .controlCharacter (c :: rest)
    else stringBody budget (c :: read) rest

/-- A string whose opening quote has been read. A string without end is reported at its opening
quote. -/
def string (input : List Char) : Except Misreading (String × List Char) :=
  match stringBody (input.length + 1) [] input with
  | .ok (read, rest) => .ok (String.ofList read.reverse, rest)
  | .error ⟨.openString, _⟩ => .error ⟨.openString, input.length + 1⟩
  | .error misreading => .error misreading

/-- A run of ASCII digits and what follows it. -/
def digitRun (input : List Char) : List Char × List Char :=
  (input.takeWhile Char.isDigit, input.dropWhile Char.isDigit)

/-- The whole part of a number: a single zero, or digits that start with another one. -/
def wholePart? : List Char → Option (List Char × List Char)
  | '0' :: rest => some (['0'], rest)
  | input =>
    let (digits, rest) := digitRun input
    if digits.isEmpty then none else some (digits, rest)

/-- A fraction, if a point with digits behind it follows. -/
def fraction : List Char → List Char × List Char
  | '.' :: rest =>
    let (digits, after) := digitRun rest
    if digits.isEmpty then ([], '.' :: rest) else (digits, after)
  | input => ([], input)

/-- An exponent, if a letter with a signed run of digits behind it follows. -/
def exponent? (input : List Char) : Option (Int × List Char) :=
  match input with
  | c :: rest =>
    if c == 'e' || c == 'E' then
      let (negative, body) := Number.signed rest
      let (digits, after) := digitRun body
      if digits.isEmpty then none
      else
        let size := Int.ofNat ((Number.digits? 10 digits).getD 0)
        some (if negative then -size else size, after)
    else none
  | [] => none

/-- A number without its sign. -/
def unsigned? (negative : Bool) (input : List Char) : Option (Except Flaw Json × List Char) := do
  let (whole, rest) ← wholePart? input
  let (places, rest) := fraction rest
  let power? := exponent? rest
  if places.isEmpty && power?.isNone then
    if Number.mostDigits < whole.length then
      return (.error (.tooManyDigits whole.length), rest)
    let size := Int.ofNat ((Number.digits? 10 whole).getD 0)
    return (.ok (.int (if negative then -size else size)), rest)
  else
    let (power, rest) := power?.getD (0, rest)
    let digits := (Number.digits? 10 (whole ++ places)).getD 0
    let x := Number.decimalValue digits (power - places.length)
    return (.ok (.real (if negative then -x else x)), rest)

/-- What follows a given word. -/
def after? (word : String) (input : List Char) : Option (List Char) :=
  if word.toList.isPrefixOf input then some (input.drop word.length) else none

/-- A value that is written without brackets or quotes. -/
def plain? (input : List Char) : Option (Except Flaw Json × List Char) :=
  let words : List (String × Json) :=
    [("null", .null), ("true", .bool true), ("false", .bool false), ("NaN", .real (0.0 / 0.0)),
     ("Infinity", .real (1.0 / 0.0)), ("-Infinity", .real (-1.0 / 0.0))]
  match words.findSome? fun (word, value) => (after? word input).map (.ok value, ·) with
  | some found => some found
  | none =>
    match input with
    | '-' :: rest => unsigned? true rest
    | rest => unsigned? false rest

mutual

/-- A value; white space before it has been skipped. -/
def value : Nat → List Char → Except Misreading (Json × List Char)
  | 0, input => flawed .noValue input
  | _ + 1, '"' :: rest => (string rest).map fun (read, rest) => (.text read, rest)
  | budget + 1, '[' :: rest =>
    match skip rest with
    | ']' :: rest => .ok (.list [], rest)
    | rest => (items budget rest).map fun (items, rest) => (.list items, rest)
  | budget + 1, '\x7b' :: rest =>
    match skip rest with
    | '\x7d' :: rest => .ok (.object [], rest)
    | rest => (members budget [] rest).map fun (members, rest) => (.object members, rest)
  | _ + 1, input =>
    match plain? input with
    | some (.ok read, rest) => .ok (read, rest)
    | some (.error flaw, _) => flawed flaw input
    | none => flawed .noValue input

/-- The items of a list and its closing bracket. -/
def items : Nat → List Char → Except Misreading (List Json × List Char)
  | 0, input => flawed .noValue input
  | budget + 1, input => do
    let (item, rest) ← value budget input
    match skip rest with
    | ',' :: rest =>
      let (items, rest) ← items budget (skip rest)
      return (item :: items, rest)
    | ']' :: rest => return ([item], rest)
    | rest => flawed .noComma rest

/-- The members of an object, added to those read before, and its closing brace. -/
def members : Nat → List (String × Json) → List Char →
    Except Misreading (List (String × Json) × List Char)
  | 0, _, input => flawed .noKey input
  | budget + 1, read, '"' :: input => do
    let (key, rest) ← string input
    match skip rest with
    | ':' :: rest =>
      let (value, rest) ← value budget (skip rest)
      let read := Keyed.put read key value
      match skip rest with
      | ',' :: rest => members budget read (skip rest)
      | '\x7d' :: rest => return (read, rest)
      | rest => flawed .noComma rest
    | rest => flawed .noColon rest
  | _ + 1, _, input => flawed .noKey input

end

/-- The value of a whole text. -/
def document (input : List Char) : Except Misreading Json := do
  let (value, rest) ← value (2 * input.length + 2) (skip input)
  match skip rest with
  | [] => return value
  | rest => flawed .extraData rest

end Reader

/-- The value that a text denotes, or what is wrong with it. -/
def parse (text : String) : Except Misreading Json :=
  match text.toList with
  | '\ufeff' :: rest => Reader.flawed .byteOrderMark ('\ufeff' :: rest)
  | input => Reader.document input

/-- The value that a text denotes. -/
def parse? (text : String) : Option Json := (parse text).toOption

end SnippetTutor.Json
