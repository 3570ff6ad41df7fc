import DmgCore.Bus.Basic
import DmgCore.Cpu.OpcodeTables
import DmgCore.Cpu.Registers
import DmgCore.Log

/-!
The processor on its address space, and the moves that instructions are made of.

* `Cpu`: registers, the interrupt switch, the cycles of the current step and the
  opcode tables;
* `Machine`: a processor, the address space it works on and the log;
* `Machine.fetch8`, `Machine.fetch16`: read at PC and go past what was read;
* `Machine.push`, `Machine.pop`: the stack, which grows towards address `0`.

Addresses and the two word registers wrap at `0xFFFF`, the cycle counter at
`2 ^ 32`.
-/

namespace DmgCore

/-- The state of the processor. -/
structure Cpu (ε : Type) where
  regs : Registers
  /-- Whether interrupts are admitted. -/
  ime : Bool
  /-- The cycles charged so far in the current step. -/
  clock : UInt32
  tables : OpcodeTables ε

namespace Cpu

variable {ε : Type}

/-- A processor with registers at zero that admits interrupts. -/
def ofTables (tables : OpcodeTables ε) : Cpu ε := ⟨.cleared, true, 0, tables⟩

/-- A processor that knows the instructions interrupts need. -/
def standard : Cpu ε := ofTables .interruptControl

/-- Sets the registers and the clock to zero; the interrupt switch stays. -/
def reset (cpu : Cpu ε) : Cpu ε := { cpu with regs := .cleared, clock := 0 }

/-- Charges cycles to the current step. -/
def charge (cpu : Cpu ε) (cycles : UInt32) : Cpu ε := { cpu with clock := cpu.clock + cycles }

end Cpu

/-- A processor at work: its state, the address space and the log, oldest record first. -/
structure Machine (ε σ : Type) where
  cpu : Cpu ε
  bus : σ
  log : Array LogRecord := #[]

namespace Machine

variable {ε σ : Type}

/-! ### Changing one part -/

/-- Replaces the registers by a function of them. -/
def mapRegs (m : Machine ε σ) (f : Registers → Registers) : Machine ε σ :=
  { m with cpu := { m.cpu with regs := f m.cpu.regs } }

/-- Admits or masks interrupts. -/
def setIme (m : Machine ε σ) (admitted : Bool) : Machine ε σ :=
  { m with cpu := { m.cpu with ime := admitted } }

/-- Charges cycles to the current step. -/
def charge (m : Machine ε σ) (cycles : UInt32) : Machine ε σ :=
  { m with cpu := m.cpu.charge cycles }

/-- Begins to count the cycles of a step. -/
def restartClock (m : Machine ε σ) : Machine ε σ := { m with cpu := { m.cpu with clock := 0 } }

/-- Replaces the opcode tables. -/
def setTables (m : Machine ε σ) (tables : OpcodeTables ε) : Machine ε σ :=
  { m with cpu := { m.cpu with tables := tables } }

/-- Sets the registers and the clock to zero. -/
def reset (m : Machine ε σ) : Machine ε σ := { m with cpu := m.cpu.reset }

/-- Sends a log record. -/
def report (m : Machine ε σ) (level : LogLevel) (text : String) : Machine ε σ :=
  { m with log := m.log.push ⟨level, text⟩ }

/-- Goes on at another address. -/
def jump (m : Machine ε σ) (addr : UInt16) : Machine ε σ :=
  m.mapRegs fun regs => { regs with pc := addr }

/-- Moves PC forward. -/
def skip (m : Machine ε σ) (length : UInt16) : Machine ε σ :=
  m.jump (m.cpu.regs.pc + length)

/-- Points SP at an address. -/
def setSP (m : Machine ε σ) (addr : UInt16) : Machine ε σ :=
  m.mapRegs fun regs => { regs with sp := addr }

/-! ### Memory at PC and at SP -/

variable [Bus σ]

/-- Writes a byte. -/
def write8 (m : Machine ε σ) (addr : UInt16) (value : UInt8) : Machine ε σ :=
  { m with bus := Bus.write8 m.bus addr value }

/-- Writes a word, low byte first. -/
def write16 (m : Machine ε σ) (addr value : UInt16) : Machine ε σ :=
  { m with bus := Bus.write16 m.bus addr value }

/-- Reads the byte at PC and goes past it. -/
def fetch8 (m : Machine ε σ) : UInt8 × Machine ε σ :=
  (Bus.read8 m.bus m.cpu.regs.pc, m.skip 1)

/-- Reads the word at PC, low byte first, and goes past it. -/
def fetch16 (m : Machine ε σ) : UInt16 × Machine ε σ :=
  let (lo, m) := m.fetch8
  let (hi, m) := m.fetch8
  (Word.ofBytes hi lo, m)

/-- Puts a word on the stack: SP goes down by two, and the word is written there. -/
def push (m : Machine ε σ) (value : UInt16) : Machine ε σ :=
  let sp := m.cpu.regs.sp - 2
  (m.setSP sp).write16 sp value

/-- Takes a word from the stack. -/
def pop (m : Machine ε σ) : UInt16 × Machine ε σ :=
  let sp := m.cpu.regs.sp
  (Bus.read16 m.bus sp, m.setSP (sp + 2))

end Machine

end DmgCore
