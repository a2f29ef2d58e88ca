import SnippetTutor.Json.Basic
import SnippetTutor.Number.Printer
import SnippetTutor.Text.Surrogate

/-!
# Writing JSON

`Json.compress` writes a value on one line without blanks. `Json.pretty` spreads lists and objects
over lines with two blanks of indentation per level and keeps to ASCII, writing every other
character as code units. Lone surrogates are always written as code units.
-/

namespace SnippetTutor.Json

/-- Four lower-case hexadecimal digits. -/
def hex4 (n : Nat) : List Char :=
  let digits := Nat.toDigits 16 n
  List.replicate (4 - digits.length) '0' ++ digits

/-- A code unit as an escape. -/
def unitEscape (unit : Nat) : List Char := '\\' :: 'u' :: hex4 unit

/-- The escapes that both printers use. -/
def shortEscape? : Char → Option (List Char)
  | '"' => some ['\\', '"']
  | '\\' => some ['\\', '\\']
  | '\n' => some ['\\', 'n']
  | '\r' => some ['\\', 'r']
  | '\t' => some ['\\', 't']
  | '\x08' => some ['\\', 'b']
  | '\x0c' => some ['\\', 'f']
  | _ => none

/-- A character of a string. With `ascii` set, characters beyond ASCII are written as one or two
code units. -/
def escapeChar (ascii : Bool) (c : Char) : List Char :=
  match shortEscape? c with
  | some escape => escape
  | none =>
    let n := Text.codePoint c
    if n < 0x20 || Text.isSurrogate n then unitEscape n
    else if n < 0x7f || !ascii then [c]
    else if n < 0x10000 then unitEscape n
    else unitEscape (0xd800 + (n - 0x10000) / 1024) ++ unitEscape (0xdc00 + (n - 0x10000) % 1024)

/-- A string in quotes. -/
def quote (ascii : Bool) (text : String) : String :=
  String.ofList ('"' :: text.toList.flatMap (escapeChar ascii) ++ ['"'])

/-- A double. -/
def printReal (x : Float) : String :=
  match Number.scientificOrPlain x with
  | "nan" => "NaN"
  | "inf" => "Infinity"
  | "-inf" => "-Infinity"
  | written => written

/-- A value that has no parts. -/
def printPlain (ascii : Bool) : Json → String
  | null => "null"
  | bool value => if value then "true" else "false"
  | int value => toString value
  | real value => printReal value
  | text value => quote ascii value
  | list _ => "[]"
  | object _ => "\x7b\x7d"

mutual

/-- A value on one line. -/
def compress : Json → String
  | list items => "[" ++ compressItems items ++ "]"
  | object members => "\x7b" ++ compressMembers members ++ "\x7d"
  | other => printPlain false other

/-- Items separated by commas. -/
def compressItems : List Json → String
  | [] => ""
  | [item] => compress item
  | item :: rest => compress item ++ "," ++ compressItems rest

/-- Members separated by commas. -/
def compressMembers : List (String × Json) → String
  | [] => ""
  | [(key, value)] => quote false key ++ ":" ++ compress value
  | (key, value) :: rest =>
    quote false key ++ ":" ++ compress value ++ "," ++ compressMembers rest

end

/-- A line break and the indentation of a level. -/
def newline (level : Nat) : String := "\n" ++ String.ofList (List.replicate (2 * level) ' ')

mutual

/-- A value spread over lines, its own parts one level below `level`. -/
def prettyAt (level : Nat) : Json → String
  | list [] => "[]"
  | list items => "[" ++ prettyItems (level + 1) items ++ newline level ++ "]"
  | object [] => "\x7b\x7d"
  | object members => "\x7b" ++ prettyMembers (level + 1) members ++ newline level ++ "\x7d"
  | other => printPlain true other

/-- Items on lines of their own. -/
def prettyItems (level : Nat) : List Json → String
  | [] => ""
  | [item] => newline level ++ prettyAt level item
  | item :: rest => newline level ++ prettyAt level item ++ "," ++ prettyItems level rest

/-- Members on lines of their own. -/
def prettyMembers (level : Nat) : List (String × Json) → String
  | [] => ""
  | [(key, value)] => newline level ++ quote true key ++ ": " ++ prettyAt level value
  | (key, value) :: rest =>
    newline level ++ quote true key ++ ": " ++ prettyAt level value ++ "," ++
      prettyMembers level rest

end

/-- A value spread over lines. -/
def pretty (json : Json) : String := prettyAt 0 json

end SnippetTutor.Json
