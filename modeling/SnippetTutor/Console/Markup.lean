/-!
# Console markup

Text on the console carries tags in square brackets, such as `[bold]` and `[/bold]`. A tag starts
with a small letter, a slash, a number sign or an at sign and has no further opening bracket before
its closing one. A tag behind an odd number of backslashes is no tag but text, and every two
backslashes before a tag stand for one.

* `escape` makes a text stand for itself: it doubles the backslashes before anything that looks
  like a tag and adds one more;
* `plain` is what is left of marked-up text when the tags have done their work.
-/

namespace SnippetTutor.Console

/-- Characters that a tag can start with. -/
def startsTag (c : Char) : Bool :=
  ('a' ≤ c && c ≤ 'z') || c == '#' || c == '/' || c == '@'

/-- Whether a closing bracket comes before any opening one. -/
def closes : List Char → Bool
  | [] => false
  | c :: rest => c == ']' || (c != '[' && closes rest)

/-- Whether a text starts with a tag, given without its opening bracket. -/
def opensTag : List Char → Bool
  | [] => false
  | c :: rest => startsTag c && closes rest

/-- A number of backslashes. -/
def backslashes (count : Nat) : List Char := List.replicate count '\\'

/-- Escapes the tags of a text behind a number of backslashes. -/
def escapeTags (pending : Nat) : List Char → List Char
  | [] => backslashes pending
  | c :: rest =>
    if c == '\\' then escapeTags (pending + 1) rest
    else if c == '[' && opensTag rest then
      backslashes (2 * pending + 1) ++ c :: escapeTags 0 rest
    else backslashes pending ++ c :: escapeTags 0 rest

/-- Whether a text ends in a single backslash. -/
def endsInBackslash (text : List Char) : Bool :=
  match text.reverse with
  | '\\' :: '\\' :: _ => false
  | '\\' :: _ => true
  | _ => false

/-- Markup that shows a text as it is. A single backslash at the end is doubled, so that it cannot
escape what is written behind it. -/
def escape (text : String) : String :=
  let escaped := escapeTags 0 text.toList
  String.ofList (if endsInBackslash escaped then escaped ++ ['\\'] else escaped)

/-- What follows the closing bracket of a tag. -/
def afterTag (text : List Char) : List Char := (text.dropWhile (· != ']')).drop 1

theorem length_afterTag_le (text : List Char) : (afterTag text).length ≤ text.length := by
  have := (List.dropWhile_suffix (· != ']') (l := text)).length_le
  simp only [afterTag, List.length_drop]
  omega

/-- Marked-up text without its tags, behind a number of backslashes. -/
def plainFrom (pending : Nat) : List Char → List Char
  | [] => backslashes pending
  | c :: rest =>
    if c == '\\' then plainFrom (pending + 1) rest
    else if c == '[' && opensTag rest then
      if pending % 2 == 1 then backslashes (pending / 2) ++ c :: plainFrom 0 rest
      else backslashes (pending / 2) ++ plainFrom 0 (afterTag rest)
    else backslashes pending ++ c :: plainFrom 0 rest
termination_by text => text.length
decreasing_by
  all_goals simp only [List.length_cons]
  · omega
  · omega
  · have := length_afterTag_le rest
    omega
  · omega

/-- Marked-up text without its tags. -/
def plain (markup : String) : String := String.ofList (plainFrom 0 markup.toList)

end SnippetTutor.Console
