/-!
# Surrogates

A surrogate is a code unit that is a character only together with another one. Texts from outside
may hold lone ones. Each of them is kept as a private character, the one that lies `0x100000` above
it, and is written as the surrogate again wherever texts are escaped.
-/

namespace SnippetTutor.Text

/-- Whether a code unit is a surrogate. -/
def isSurrogate (unit : Nat) : Bool := 0xd800 ≤ unit && unit < 0xe000

/-- The distance from a surrogate to its private character. -/
def privateOffset : Nat := 0x100000

/-- The character for a code unit: the unit itself, or the private character of a surrogate. -/
def ofUnit (unit : Nat) : Char :=
  if isSurrogate unit then Char.ofNat (privateOffset + unit) else Char.ofNat unit

/-- The surrogate that a character stands for. -/
def surrogate? (c : Char) : Option Nat :=
  if privateOffset ≤ c.toNat && isSurrogate (c.toNat - privateOffset) then
    some (c.toNat - privateOffset)
  else none

/-- The code point that a character stands for. -/
def codePoint (c : Char) : Nat := (surrogate? c).getD c.toNat

end SnippetTutor.Text
