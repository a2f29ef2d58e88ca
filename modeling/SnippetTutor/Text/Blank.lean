/-!
# White space and line breaks

* `isBlank` is the Unicode notion of white space, with the four information separators;
* `isPadding` is the same without the information separators;
* `isLineBreak` are the characters that end a line; all of them are blank;
* `trim` removes a class of characters at both ends of a text, `strip` white space; `firstLine`
  keeps what stands before the first line break.
-/

namespace SnippetTutor.Text

/-- White space. -/
def isBlank (c : Char) : Bool :=
  let n := c.toNat
  (0x09 ≤ n && n ≤ 0x0d) || (0x1c ≤ n && n ≤ 0x20) || n == 0x85 || n == 0xa0 || n == 0x1680 ||
    (0x2000 ≤ n && n ≤ 0x200a) || n == 0x2028 || n == 0x2029 || n == 0x202f || n == 0x205f ||
    n == 0x3000

/-- The information separators, from the file separator to the unit separator. -/
def isInformationSeparator (c : Char) : Bool := 0x1c ≤ c.toNat && c.toNat ≤ 0x1f

/-- White space that may surround a number. -/
def isPadding (c : Char) : Bool := isBlank c && !isInformationSeparator c

/-- Characters that end a line. -/
def isLineBreak (c : Char) : Bool :=
  let n := c.toNat
  (0x0a ≤ n && n ≤ 0x0d) || (0x1c ≤ n && n ≤ 0x1e) || n == 0x85 || n == 0x2028 || n == 0x2029

theorem isBlank_of_isLineBreak {c : Char} (lineBreak : isLineBreak c = true) :
    isBlank c = true := by
  simp only [isLineBreak, isBlank, Bool.or_eq_true, Bool.and_eq_true, decide_eq_true_eq,
    beq_iff_eq] at lineBreak ⊢
  omega

/-- A text without the characters of a class at its ends. -/
def trim (inClass : Char → Bool) (text : List Char) : List Char :=
  ((text.dropWhile inClass).reverse.dropWhile inClass).reverse

/-- A text without the white space at its ends. -/
def strip (text : List Char) : List Char := trim isBlank text

/-- What stands before the first line break. -/
def firstLine (text : List Char) : List Char := text.takeWhile fun c => !isLineBreak c

end SnippetTutor.Text
