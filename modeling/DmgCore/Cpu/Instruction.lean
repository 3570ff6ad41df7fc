import DmgCore.Cpu.Machine

/-!
What handlers do.

A handler changes the machine once and says how it ended: it is through, it
failed, or it hands over to the extended table. The handlers of the library are
defined here; an embedding system defines those of its own instructions as an
`InstructionSet`.
-/

namespace DmgCore

/-- How the work of one handler ended. -/
inductive Ending where
  /-- The instruction is complete. -/
  | done
  /-- The instruction failed. -/
  | failed (fault : Fault)
  /-- The extended table has to be consulted for an opcode; the address is the one
  to name if it has no handler for it. -/
  | extended (opcode : UInt8) (pc : UInt16)
  deriving DecidableEq, Repr

/-- The meaning of the embedding system's instructions, on any address space. -/
class InstructionSet (ε : Type) where
  exec : {σ : Type} → [Bus σ] → ε → Machine ε σ → Machine ε σ × Ending

/-- A system without instructions of its own. -/
instance : InstructionSet Empty where
  exec instruction _ := instruction.elim

namespace Handler

variable {ε σ : Type} [Bus σ]

/-- NOP: one byte, four cycles. -/
def execNop (m : Machine ε σ) : Machine ε σ := (m.skip 1).charge 4

/-- DI: masks interrupts. -/
def execDi (m : Machine ε σ) : Machine ε σ := ((m.skip 1).setIme false).charge 4

/-- EI: admits interrupts, from the next step on. -/
def execEi (m : Machine ε σ) : Machine ε σ := ((m.skip 1).setIme true).charge 4

/-- RETI: jumps to the address on the stack and admits interrupts. -/
def execReti (m : Machine ε σ) : Machine ε σ :=
  let (addr, m) := m.pop
  ((m.jump addr).setIme true).charge 16

/-- The way into the extended table: goes past the prefix and the opcode behind it,
which costs nothing, and names the address of the prefix. -/
def execPrefix (m : Machine ε σ) : Machine ε σ × Ending :=
  let pc := m.cpu.regs.pc
  let (opcode, m) := (m.skip 1).fetch8
  (m, .extended opcode pc)

/-- Runs a handler once. -/
def exec [InstructionSet ε] : Handler ε → Machine ε σ → Machine ε σ × Ending
  | nop, m => (execNop m, .done)
  | di, m => (execDi m, .done)
  | ei, m => (execEi m, .done)
  | reti, m => (execReti m, .done)
  | prefixCB, m => execPrefix m
  | custom instruction, m => InstructionSet.exec instruction m

end Handler

end DmgCore
