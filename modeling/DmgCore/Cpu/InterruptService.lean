import DmgCore.Cpu.Machine
import DmgCore.Interrupt

/-!
Taking an interrupt.

An interrupt is taken when interrupts are admitted and some source is both
requested and enabled. Taking it clears the request bit of the source, masks
further interrupts, puts PC on the stack and goes on at the source's handler.
-/

namespace DmgCore

namespace Machine

variable {ε σ : Type} [Bus σ]

/-- The cycles that taking an interrupt costs. -/
def interruptCycles : UInt32 := 20

/-- The bits of the sources that are both enabled and requested. -/
def pendingBits (m : Machine ε σ) : UInt8 :=
  Bus.read8 m.bus MemoryMap.interruptEnable &&& Bus.read8 m.bus MemoryMap.interruptRequest

/-- The interrupt to take now, if there is one. -/
def pendingInterrupt? (m : Machine ε σ) : Option Interrupt :=
  if m.cpu.ime then Interrupt.mostUrgent? m.pendingBits else none

/-- Clears a source's bit in IF and keeps the other bits. -/
def acknowledge (m : Machine ε σ) (source : Interrupt) : Machine ε σ :=
  m.write8 MemoryMap.interruptRequest
    (Bus.read8 m.bus MemoryMap.interruptRequest &&& ~~~source.mask)

/-- The report on an interrupt just taken; the return address is on the stack. -/
def interruptReport (m : Machine ε σ) (source : Interrupt) (returnAddr : UInt16) : String :=
  let requested := Bus.read8 m.bus MemoryMap.interruptRequest &&& 0x1F
  let enabled := Bus.read8 m.bus MemoryMap.interruptEnable
  let regs := m.cpu.regs
  s!"CPU interrupt: idx={source.index} vector=0x{Hex.word regs.pc} pc=0x{Hex.word returnAddr} " ++
    s!"sp=0x{Hex.word regs.sp} IF=0x{Hex.byte requested} IE=0x{Hex.byte enabled}"

/-- Takes an interrupt: acknowledges it, masks interrupts, puts PC on the stack and
jumps to the handler of the source. -/
def serviceInterrupt (m : Machine ε σ) (source : Interrupt) : Machine ε σ :=
  let pc := m.cpu.regs.pc
  let m := (((m.acknowledge source).setIme false).push pc).jump source.vector
  m.report .debug (m.interruptReport source pc)

end Machine

end DmgCore
