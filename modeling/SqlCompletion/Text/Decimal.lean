/-!
# Decimal numbers

Numbers as they are written with the digits `0` to `9`, and the bound of a 64-bit word. A number
read back from its own digits is unchanged.
-/

namespace SqlCompletion.Text

/-- The number that decimal digits stand for. -/
def natOfDigits (ds : List Char) : Nat := Nat.ofDigitChars 10 ds 0

theorem natOfDigits_toDigits (n : Nat) : natOfDigits (Nat.toDigits 10 n) = n :=
  Nat.ofDigitChars_toDigits (by decide) (by decide)

/-- The number that the characters stand for, if all of them are digits and it fits in a 64-bit
word. -/
def wordOfDigits? (ds : List Char) : Option Nat :=
  if ds.all Char.isDigit ∧ natOfDigits ds < UInt64.size then some (natOfDigits ds) else none

theorem wordOfDigits?_toDigits {n : Nat} (h : n < UInt64.size) :
    wordOfDigits? (Nat.toDigits 10 n) = some n := by
  have hd : (Nat.toDigits 10 n).all Char.isDigit := by
    simpa using fun c hc => Nat.isDigit_of_mem_toDigits (by decide) (by decide) hc
  simp [wordOfDigits?, natOfDigits_toDigits, hd, h]

end SqlCompletion.Text
