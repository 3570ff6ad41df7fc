import DmgCore.Cpu.Machine
import DmgCore.Proofs.Bus.WordAccess

/-!
The ways in which the processor takes a word from memory and puts one there.

A word is an operand at PC, the top of the stack at SP, or anywhere in memory. However it is
reached, it is the same two bytes in the same order, and the byte behind `0xFFFF` is that at `0`.

* `Machine.fetch8_jump`, `Machine.fetch16_jump`: what is fetched at PC, on any address space;
* `Machine.pop_setSP`, `Machine.push_setSP`: what is popped from and pushed to SP;
* `Machine.word_accesses_agree`: on flat memory they all agree.
-/

namespace DmgCore

/-- Two single steps lead to the address behind a word. -/
lemma Word.add_one_add_one (w : UInt16) : w + 1 + 1 = w + 2 := UInt16.add_assoc w 1 1

namespace Machine

variable {ε σ : Type} [Bus σ]

/-- A byte is fetched from the address that PC holds. -/
lemma fetch8_jump (m : Machine ε σ) (addr : UInt16) :
    (m.jump addr).fetch8 = (Bus.read8 m.bus addr, m.jump (addr + 1)) := rfl

/-- A word is fetched from the address that PC holds, in two bytes of which the first is low. -/
lemma fetch16_jump (m : Machine ε σ) (addr : UInt16) :
    (m.jump addr).fetch16 = (Bus.read16 m.bus addr, m.jump (addr + 2)) := by
  have hbytes : (m.jump addr).fetch16 = (Bus.read16 m.bus addr, m.jump (addr + 1 + 1)) := rfl
  rw [hbytes, Word.add_one_add_one]

/-- A word is popped from the address that SP holds. -/
lemma pop_setSP (m : Machine ε σ) (addr : UInt16) :
    (m.setSP addr).pop = (Bus.read16 m.bus addr, m.setSP (addr + 2)) := rfl

/-- A word is pushed to the address two below the one that SP holds. -/
lemma push_setSP (m : Machine ε σ) (addr value : UInt16) :
    (m.setSP (addr + 2)).push value =
      { m.setSP addr with bus := Bus.write16 m.bus addr value } := by
  have hplace : (m.setSP (addr + 2)).push value =
      { m.setSP (addr + 2 - 2) with bus := Bus.write16 m.bus (addr + 2 - 2) value } := rfl
  rw [hplace, UInt16.add_sub_cancel]

/-- **All accesses to a word agree.**  Take any address, the last one included.  A word that is
written there is read back, and no byte changes but the two that it takes; writing back what was
read changes nothing.  The word that is read there is also the one that is fetched when PC holds
the address, whether as a word or as two bytes with the low one first, and the one that is popped
when SP holds it; PC or SP goes on by two, and nothing else changes.  A push that begins with SP
two above the address leaves SP there and the memory that writing the word leaves. -/
theorem word_accesses_agree (m : Machine ε FlatMemory) (addr value : UInt16) :
    Bus.read16 (Bus.write16 m.bus addr value) addr = value ∧
    (∀ other, other ≠ addr → other ≠ addr + 1 →
      Bus.read8 (Bus.write16 m.bus addr value) other = Bus.read8 m.bus other) ∧
    Bus.write16 m.bus addr (Bus.read16 m.bus addr) = m.bus ∧
    (m.jump addr).fetch16 = (Bus.read16 m.bus addr, m.jump (addr + 2)) ∧
    (∃ lo hi next, (m.jump addr).fetch8 = (lo, next) ∧ next.fetch8 = (hi, m.jump (addr + 2)) ∧
      Word.ofBytes hi lo = Bus.read16 m.bus addr) ∧
    (m.setSP addr).pop = (Bus.read16 m.bus addr, m.setSP (addr + 2)) ∧
    (m.setSP (addr + 2)).push value =
      { m.setSP addr with bus := Bus.write16 m.bus addr value } := by
  refine ⟨FlatMemory.read16_write16_self _ _ _, fun other hlow hhigh => ?_,
    FlatMemory.write16_read16 _ _, fetch16_jump m addr, ?_, pop_setSP m addr,
    push_setSP m addr value⟩
  · rw [FlatMemory.read8_write16, if_neg hhigh, if_neg hlow]
  · have hsecond : (m.jump (addr + 1)).fetch8 =
        (Bus.read8 m.bus (addr + 1), m.jump (addr + 2)) := by
      rw [fetch8_jump, Word.add_one_add_one]
    exact ⟨_, _, _, fetch8_jump m addr, hsecond, rfl⟩

/-- A word at the last address, which is also the one that a push finds when SP is `1`. -/
theorem word_accesses_agree_straddling :
    let m : Machine Empty FlatMemory := ⟨.standard, .zero, #[]⟩
    Bus.read8 (Bus.write16 m.bus 0xFFFF 0x1234) 1 = 0 ∧
      ((m.setSP 1).push 0x1234).bus = Bus.write16 m.bus 0xFFFF 0x1234 ∧
      Bus.read16 ((m.setSP 1).push 0x1234).bus 0xFFFF = 0x1234 := by
  intro m
  obtain ⟨hread, hother, -, -, -, -, hpush⟩ := word_accesses_agree m 0xFFFF 0x1234
  have hmemory : ((m.setSP 1).push 0x1234).bus = Bus.write16 m.bus 0xFFFF 0x1234 :=
    congrArg Machine.bus hpush
  refine ⟨?_, hmemory, ?_⟩
  · rw [hother 1 (by decide) (by decide)]
    exact FlatMemory.read8_zero 1
  · rw [hmemory, hread]

end Machine

end DmgCore
