/-!
# Powers of two and ten

The weights of the places in binary and decimal notation, and how long a whole number may be in base
ten.
-/

namespace SnippetTutor.Number

/-- A power of two. -/
def twoTo (exponent : Nat) : Nat := Nat.pow 2 exponent

/-- A power of ten. -/
def tenTo (exponent : Nat) : Nat := Nat.pow 10 exponent

/-- The most digits that a whole number in base ten is read or written with; when it is read,
leading zeros count. -/
def mostDigits : Nat := 4300

/-- Whether a whole number is short enough to be written in base ten. A sign is no digit. The bound
is too large to be computed in passing, so the definition is only unfolded by name. -/
@[irreducible] def isWritable (value : Int) : Bool := value.natAbs < tenTo mostDigits

@[simp] theorem isWritable_neg (value : Int) : isWritable (-value) = isWritable value := by
  unfold isWritable
  rw [Int.natAbs_neg]

/-- The least number that is too long. -/
theorem isWritable_tenTo : isWritable (tenTo mostDigits) = false := by
  unfold isWritable
  rw [Int.natAbs_natCast]
  exact decide_eq_false (Nat.lt_irrefl _)

end SnippetTutor.Number
