/-!
# Texts within texts
-/

namespace SnippetTutor.Text

/-- Whether a text stands somewhere in another one. -/
def isInfix (part : List Char) : List Char → Bool
  | [] => part.isEmpty
  | c :: rest => part.isPrefixOf (c :: rest) || isInfix part rest

/-- Whether a name contains a word of lower-case letters, whatever the case of its own letters. -/
def mentions (name word : String) : Bool := isInfix word.toList (name.toList.map Char.toLower)

end SnippetTutor.Text
