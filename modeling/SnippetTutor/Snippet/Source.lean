import SnippetTutor.Text.Surrogate

/-!
# Source texts

A source is a text, or a sequence of code points that is none because surrogates stand in it.
Such a sequence cannot be encoded; all that is kept of it is its first run of surrogates.
-/

namespace SnippetTutor

/-- What an analysis is given to read. -/
inductive Source where
  | text (content : String)
  /-- The first surrogate, and the positions of the first and the last one of its run. -/
  | surrogates (value first last : Nat)
  deriving DecidableEq, Repr

namespace Source

/-- The source with the given code points. -/
def ofCodePoints (points : List Nat) : Source :=
  let before := points.takeWhile fun point => !Text.isSurrogate point
  match points.dropWhile fun point => !Text.isSurrogate point with
  | [] => text (String.ofList (points.map Char.ofNat))
  | value :: rest =>
    let run := rest.takeWhile Text.isSurrogate
    surrogates value before.length (before.length + run.length)

/-- The source with the given content, in which private characters stand for surrogates. -/
def ofText (content : String) : Source := ofCodePoints (content.toList.map Text.codePoint)

/-- Four lower-case hexadecimal digits. -/
def hexUnit (unit : Nat) : String :=
  let digits := Nat.toDigits 16 unit
  String.ofList (List.replicate (4 - digits.length) '0' ++ digits)

/-- Why a run of surrogates cannot be encoded. -/
def encodingError (value first last : Nat) : String :=
  let place :=
    if first == last then "character '\\u" ++ hexUnit value ++ "' in position " ++ toString first
    else "characters in position " ++ toString first ++ "-" ++ toString last
  "'utf-8' codec can't encode " ++ place ++ ": surrogates not allowed"

end Source

end SnippetTutor
