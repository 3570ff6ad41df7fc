import DmgCore.Cpu.Instruction
import DmgCore.Cpu.InterruptService

/-!
One step of the processor: an interrupt is taken, or one instruction is executed.

An instruction may go from the extended table to the extended table again, so it
is given a number of look-ups. `Machine.stepWithin budget` is `none` when they do
not suffice. The handlers of the library move PC by two from one look-up to the
next and change nothing else, so after `32768` look-ups they are where they
began: `Machine.step` allows that many, and is `none` when such a chain has no end.

* `Machine.runExtended`: the chain of look-ups in the extended table;
* `Machine.callWithin`: a handler with the look-ups it leads to;
* `Machine.executeWithin`: the handler for the opcode at PC;
* `Machine.stepWithin`, `Machine.step`: one step, with its cycles;
* `Machine.run`: several steps, up to the first fault.
-/

namespace DmgCore

namespace Machine

variable {ε σ : Type} [Bus σ] [InstructionSet ε]

/-- Reports that the primary table has no handler for an opcode. -/
def reportUnregistered (m : Machine ε σ) (opcode : UInt8) (pc : UInt16) : Machine ε σ :=
  m.report .error
    (s!"CPU halted on unregistered opcode 0x{Hex.byte opcode} at PC=0x{Hex.word pc} " ++
      s!"({m.cpu.regs.trace})")

/-- Reports that the extended table has no handler for an opcode. -/
def reportUnregisteredExtended (m : Machine ε σ) (opcode : UInt8) (pc : UInt16) : Machine ε σ :=
  m.report .error
    (s!"CPU halted on unregistered extended opcode 0xCB 0x{Hex.byte opcode} " ++
      s!"at PC=0x{Hex.word pc} ({m.cpu.regs.trace})")

/-- Consults the extended table for an opcode, and again as long as handlers hand
over to it, but not more often than the budget allows. -/
def runExtended (budget : Nat) (opcode : UInt8) (pc : UInt16) (m : Machine ε σ) :
    Option (Machine ε σ × Except Fault Unit) :=
  match budget with
  | 0 => none
  | budget + 1 =>
    match m.cpu.tables.extended? opcode with
    | none =>
      some (m.reportUnregisteredExtended opcode pc, .error (.noExtendedHandler opcode pc))
    | some handler =>
      match handler.exec m with
      | (m, .done) => some (m, .ok ())
      | (m, .failed fault) => some (m, .error fault)
      | (m, .extended opcode pc) => runExtended budget opcode pc m

/-- Runs a handler, with at most so many look-ups in the extended table. -/
def callWithin (budget : Nat) (handler : Handler ε) (m : Machine ε σ) :
    Option (Machine ε σ × Except Fault Unit) :=
  match handler.exec m with
  | (m, .done) => some (m, .ok ())
  | (m, .failed fault) => some (m, .error fault)
  | (m, .extended opcode pc) => runExtended budget opcode pc m

/-- Fetches the opcode at PC and runs its handler, with at most so many look-ups in
the extended table: the machine afterwards, and the cycles taken or the fault. -/
def executeWithin (budget : Nat) (m : Machine ε σ) :
    Option (Machine ε σ × Except Fault UInt32) :=
  let pc := m.cpu.regs.pc
  let opcode := Bus.read8 m.bus pc
  match m.cpu.tables.primary? opcode with
  | none => some (m.reportUnregistered opcode pc, .error (.noHandler opcode pc))
  | some handler =>
    (callWithin budget handler m).map fun (m, result) => (m, result.map fun _ => m.cpu.clock)

/-- One step with at most so many look-ups in the extended table: the cycles are
counted from zero, and an interrupt goes before the opcode at PC. -/
def stepWithin (budget : Nat) (m : Machine ε σ) :
    Option (Machine ε σ × Except Fault UInt32) :=
  let m := m.restartClock
  match m.pendingInterrupt? with
  | some source =>
    let m := (m.serviceInterrupt source).charge interruptCycles
    some (m, .ok m.cpu.clock)
  | none => m.executeWithin budget

/-- The number of look-ups after which a chain of prefixes is back where it began. -/
def prefixCycle : Nat := 32768

/-- One step: the machine afterwards, and the cycles taken or the fault. With the
handlers of the library, `none` means that the step never ends. -/
def step (m : Machine ε σ) : Option (Machine ε σ × Except Fault UInt32) :=
  m.stepWithin prefixCycle

/-- Runs a handler as if it had been found in a table. -/
def call (handler : Handler ε) (m : Machine ε σ) : Option (Machine ε σ × Except Fault Unit) :=
  m.callWithin prefixCycle handler

/-- Runs the handler for an opcode of the extended table. -/
def callExtended (opcode : UInt8) (pc : UInt16) (m : Machine ε σ) :
    Option (Machine ε σ × Except Fault Unit) :=
  m.runExtended prefixCycle opcode pc

/-- At most `n` steps, up to the first fault; the cycles of the steps that
succeeded are put behind those taken before. -/
def runFrom (taken : Array UInt32) (n : Nat) (m : Machine ε σ) :
    Option (Machine ε σ × Array UInt32 × Except Fault Unit) :=
  match n with
  | 0 => some (m, taken, .ok ())
  | n + 1 =>
    match m.step with
    | none => none
    | some (m, .error fault) => some (m, taken, .error fault)
    | some (m, .ok cycles) => runFrom (taken.push cycles) n m

/-- At most `n` steps, up to the first fault, with the cycles of the steps that
succeeded, oldest first. -/
def run (n : Nat) (m : Machine ε σ) : Option (Machine ε σ × Array UInt32 × Except Fault Unit) :=
  runFrom #[] n m

end Machine

end DmgCore
