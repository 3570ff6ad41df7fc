import Mathlib.Tactic.Common
import DmgCore.Proofs.Bus.WriteList

/-!
Words in flat memory.

* `FlatMemory.read8_write16`: the bytes of memory after a word was written;
* `FlatMemory.read16_write16_self`: the word is read back, also from the last address;
* `FlatMemory.write16_read16`: a word that is written back changes nothing.
-/

namespace DmgCore

/-- The two bytes of a word lie at different addresses. -/
lemma Word.ne_add_one (w : UInt16) : w ≠ w + 1 := by
  intro h
  have hone : (1 : UInt16).toNat = 1 := rfl
  have hsum := congrArg UInt16.toNat h
  rw [UInt16.toNat_add] at hsum
  omega

namespace FlatMemory

/-- A word is found as its low byte and, at the next address, its high one; every other byte
stays. -/
lemma read8_write16 (mem : FlatMemory) (addr value other : UInt16) :
    Bus.read8 (Bus.write16 mem addr value) other =
      if other = addr + 1 then Word.high value
      else if other = addr then Word.low value else Bus.read8 mem other := by
  rw [Bus.write16, read8_write8, read8_write8]

/-- A word that was written is read back. -/
lemma read16_write16_self (mem : FlatMemory) (addr value : UInt16) :
    Bus.read16 (Bus.write16 mem addr value) addr = value := by
  rw [Bus.read16, read8_write16, read8_write16, if_pos rfl, if_neg (Word.ne_add_one addr),
    if_pos rfl, Word.ofBytes_high_low]

/-- Writing back the word that was read changes nothing. -/
lemma write16_read16 (mem : FlatMemory) (addr : UInt16) :
    Bus.write16 mem addr (Bus.read16 mem addr) = mem := by
  refine ext_read8 fun other => ?_
  rw [read8_write16, Bus.read16, Word.high_ofBytes, Word.low_ofBytes]
  by_cases hhigh : other = addr + 1
  · rw [if_pos hhigh, hhigh]
  · by_cases hlow : other = addr
    · rw [if_neg hhigh, if_pos hlow, hlow]
    · rw [if_neg hhigh, if_neg hlow]

end FlatMemory

end DmgCore
