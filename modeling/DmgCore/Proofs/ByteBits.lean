import Mathlib.Tactic.Common

/-!
The bits of a byte.

* `Byte.testBit_of_le`: there are eight of them;
* `Byte.eq_of_testBit_eq`: they determine the byte;
* `Byte.testBit_and_not`: a mask taken out of a byte.
-/

namespace DmgCore

namespace Byte

/-- Beyond the eight bits of a byte there is none that is set. -/
lemma testBit_of_le (byte : UInt8) {i : ℕ} (hi : 8 ≤ i) : byte.toNat.testBit i = false :=
  Nat.testBit_lt_two_pow
    (Nat.lt_of_lt_of_le byte.toNat_lt (Nat.pow_le_pow_right (by decide) hi))

/-- A byte is determined by its eight bits. -/
lemma eq_of_testBit_eq {byte other : UInt8}
    (h : ∀ i < 8, byte.toNat.testBit i = other.toNat.testBit i) : byte = other := by
  apply UInt8.toNat_inj.mp
  apply Nat.eq_of_testBit_eq
  intro i
  by_cases hi : i < 8
  · exact h i hi
  · rw [testBit_of_le byte (Nat.not_lt.mp hi), testBit_of_le other (Nat.not_lt.mp hi)]

/-- Taking a mask out of a byte clears the bits of the mask and leaves the others. -/
lemma testBit_and_not (byte mask : UInt8) (i : ℕ) :
    (byte &&& ~~~mask).toNat.testBit i = (byte.toNat.testBit i && !mask.toNat.testBit i) := by
  have hmask : mask.toNat < 2 ^ 8 := mask.toNat_lt
  have hnot : (~~~mask).toNat = 2 ^ 8 - (mask.toNat + 1) := by
    have hsize : UInt8.size = 2 ^ 8 := rfl
    rw [UInt8.toNat_not, hsize]
    omega
  rw [UInt8.toNat_and, Nat.testBit_and, hnot, Nat.testBit_two_pow_sub_succ hmask]
  by_cases hi : i < 8
  · rw [decide_eq_true hi, Bool.true_and]
  · rw [testBit_of_le byte (Nat.not_lt.mp hi), Bool.false_and, Bool.false_and]

end Byte

end DmgCore
