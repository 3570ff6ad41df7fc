import DmgCore.Text.BitNames

/-!
The four flags of the processor and the byte F that holds them.

Flags are four independent bits in the upper half of F; the lower half has no
storage, so a byte written to F loses it (`Flags.ofByte`) and it always reads as
zero (`Flags.toByte`).
-/

namespace DmgCore

/-- A set of flags. -/
structure Flags where
  /-- Z, bit 7: the result was zero. -/
  zero : Bool := false
  /-- N, bit 6: the operation was a subtraction. -/
  subtract : Bool := false
  /-- H, bit 5: there was a carry out of the lower half. -/
  halfCarry : Bool := false
  /-- C, bit 4: there was a carry. -/
  carry : Bool := false
  deriving DecidableEq, Repr

namespace Flags

/-- The flags held in the upper half of a byte. -/
def ofByte (byte : UInt8) : Flags where
  zero := byte.toNat.testBit 7
  subtract := byte.toNat.testBit 6
  halfCarry := byte.toNat.testBit 5
  carry := byte.toNat.testBit 4

/-- The byte F, the lower half of which is zero. -/
def toByte (flags : Flags) : UInt8 :=
  UInt8.ofNat
    (128 * flags.zero.toNat + 64 * flags.subtract.toNat + 32 * flags.halfCarry.toNat
      + 16 * flags.carry.toNat)

/-- Whether all flags of a mask are set. -/
def contains (flags mask : Flags) : Bool :=
  (!mask.zero || flags.zero) && (!mask.subtract || flags.subtract)
    && (!mask.halfCarry || flags.halfCarry) && (!mask.carry || flags.carry)

/-- Gives every flag of a mask one value and keeps the others. -/
def set (flags mask : Flags) (value : Bool) : Flags where
  zero := bif mask.zero then value else flags.zero
  subtract := bif mask.subtract then value else flags.subtract
  halfCarry := bif mask.halfCarry then value else flags.halfCarry
  carry := bif mask.carry then value else flags.carry

/-- The names of the bits of F. -/
def bitNames : BitNames where
  title := "Flag"
  entries := [(0x80, "Z"), (0x40, "N"), (0x20, "H"), (0x10, "C")]

/-- A flag's letter where it is set and a dash where it is not, in the order Z N H C. -/
def letters (flags : Flags) : List Char :=
  [bif flags.zero then 'Z' else '-', bif flags.subtract then 'N' else '-',
   bif flags.halfCarry then 'H' else '-', bif flags.carry then 'C' else '-']

@[simp] theorem ofByte_toByte (flags : Flags) : ofByte flags.toByte = flags := by
  obtain ⟨z, n, h, c⟩ := flags
  cases z <;> cases n <;> cases h <;> cases c <;> rfl

/-- The lower half of F reads as zero. -/
theorem toByte_mod (flags : Flags) : flags.toByte.toNat % 16 = 0 := by
  obtain ⟨z, n, h, c⟩ := flags
  cases z <;> cases n <;> cases h <;> cases c <;> rfl

end Flags

end DmgCore
