import SnippetTutor.Json.Basic
import SnippetTutor.Number.Printer
import SnippetTutor.Text.Quoted

/-!
# Values in messages

How messages show a value: a text as it is, anything else on one line, with texts inside it in
quotes. A value with a whole number in it that is too long cannot be shown.
-/

namespace SnippetTutor.Json

mutual

/-- A value on one line, texts in quotes. -/
def literal : Json → String
  | null => "None"
  | bool value => if value then "True" else "False"
  | int value => toString value
  | real value => Number.scientificOrPlain value
  | text value => Text.quoted value
  | list items => "[" ++ literalItems items ++ "]"
  | object members => "\x7b" ++ literalMembers members ++ "\x7d"

/-- Items separated by commas. -/
def literalItems : List Json → String
  | [] => ""
  | [item] => literal item
  | item :: rest => literal item ++ ", " ++ literalItems rest

/-- Members separated by commas. -/
def literalMembers : List (String × Json) → String
  | [] => ""
  | [(key, value)] => Text.quoted key ++ ": " ++ literal value
  | (key, value) :: rest =>
    Text.quoted key ++ ": " ++ literal value ++ ", " ++ literalMembers rest

end

mutual

/-- Whether a value can be shown: no whole number in it is too long. -/
def isPrintable : Json → Bool
  | int value => Number.isWritable value
  | list items => arePrintable items
  | object members => membersPrintable members
  | _ => true

/-- Whether all items can be shown. -/
def arePrintable : List Json → Bool
  | [] => true
  | item :: rest => isPrintable item && arePrintable rest

/-- Whether the values of all members can be shown. -/
def membersPrintable : List (String × Json) → Bool
  | [] => true
  | (_, value) :: rest => isPrintable value && membersPrintable rest

end

/-- A value as messages show it, if it can be shown. -/
def shown : Json → String
  | text value => value
  | other => literal other

end SnippetTutor.Json
