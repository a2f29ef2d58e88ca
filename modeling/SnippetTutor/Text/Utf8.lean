/-!
# Reading UTF-8

Bytes are read as UTF-8 one character at a time. Where the bytes are not the form of any
character, the longest run that could have begun one (at least a single byte) is read as the
replacement character U+FFFD, and reading goes on behind it.
-/

namespace SnippetTutor.Text.Utf8

/-- The character that stands for bytes that cannot be read. -/
def replacement : Char := Char.ofNat 0xfffd

/-- What a first byte says: how many bytes follow, the bits it contributes, and the bounds that
the second byte has to keep to. -/
def lead (byte : Nat) : Option (Nat × Nat × Nat × Nat) :=
  if byte < 0x80 then some (0, byte, 0, 0)
  else if 0xc2 ≤ byte && byte ≤ 0xdf then some (1, byte - 0xc0, 0x80, 0xbf)
  else if byte == 0xe0 then some (2, 0, 0xa0, 0xbf)
  else if byte == 0xed then some (2, 0xd, 0x80, 0x9f)
  else if 0xe1 ≤ byte && byte ≤ 0xef then some (2, byte - 0xe0, 0x80, 0xbf)
  else if byte == 0xf0 then some (3, 0, 0x90, 0xbf)
  else if 0xf1 ≤ byte && byte ≤ 0xf3 then some (3, byte - 0xf0, 0x80, 0xbf)
  else if byte == 0xf4 then some (3, 4, 0x80, 0x8f)
  else none

/-- Reads the remaining bytes of a character: `count` bytes are wanted, the next of them between
`low` and `high`. Gives the code point, or nothing when a byte does not fit, and the rest. -/
def follow : (count value low high : Nat) → List UInt8 → Option Nat × List UInt8
  | 0, value, _, _, rest => (some value, rest)
  | _ + 1, _, _, _, [] => (none, [])
  | count + 1, value, low, high, byte :: rest =>
    if low ≤ byte.toNat && byte.toNat ≤ high then
      follow count (value * 64 + (byte.toNat - 0x80)) 0x80 0xbf rest
    else (none, byte :: rest)

theorem length_follow_le (count value low high : Nat) (bytes : List UInt8) :
    (follow count value low high bytes).2.length ≤ bytes.length := by
  fun_induction follow count value low high bytes with
  | case1 => exact Nat.le_refl _
  | case2 => exact Nat.le_refl _
  | case3 _ _ _ _ _ _ _ ih => exact Nat.le_succ_of_le ih
  | case4 => exact Nat.le_refl _

/-- The characters of a byte sequence. -/
def decode : List UInt8 → List Char
  | [] => []
  | byte :: rest =>
    match lead byte.toNat with
    | none => replacement :: decode rest
    | some (count, bits, low, high) =>
      match _read : follow count bits low high rest with
      | (some value, rest') => Char.ofNat value :: decode rest'
      | (none, rest') => replacement :: decode rest'
termination_by bytes => bytes.length
decreasing_by
  · exact Nat.lt_succ_self _
  all_goals
    have bound := length_follow_le count bits low high rest
    rw [_read] at bound
    exact Nat.lt_succ_of_le bound

end SnippetTutor.Text.Utf8
