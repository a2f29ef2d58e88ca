import SnippetTutor.Text.Invisible
import SnippetTutor.Text.Surrogate

/-!
# Quoted texts

How messages quote a text: between single quotes, or between double quotes when it has single
quotes and no double ones. The quote and the backslash are escaped, line breaks and tabs have
short escapes, and characters that do not show are written by their code points.
-/

namespace SnippetTutor.Text

/-- Lower-case hexadecimal digits of a number, padded with zeros. -/
def hexDigits (width n : Nat) : List Char :=
  let digits := Nat.toDigits 16 n
  List.replicate (width - digits.length) '0' ++ digits

/-- The code point of a character, in as few digits as its size allows. -/
def codePointEscape (c : Char) : List Char :=
  let n := codePoint c
  if n < 0x100 then '\\' :: 'x' :: hexDigits 2 n
  else if n < 0x10000 then '\\' :: 'u' :: hexDigits 4 n
  else '\\' :: 'U' :: hexDigits 8 n

/-- A character between the given quotes. -/
def escapeIn (quote c : Char) : List Char :=
  if c == quote || c == '\\' then ['\\', c]
  else if c == '\n' then ['\\', 'n']
  else if c == '\r' then ['\\', 'r']
  else if c == '\t' then ['\\', 't']
  else if isInvisible c then codePointEscape c
  else [c]

/-- A text in quotes. -/
def quoted (text : String) : String :=
  let chars := text.toList
  let quote := if chars.contains '\'' && !chars.contains '"' then '"' else '\''
  String.ofList (quote :: chars.flatMap (escapeIn quote) ++ [quote])

end SnippetTutor.Text
