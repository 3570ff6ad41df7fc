import DmgCore.Text.Hex

/-!
What can go wrong while the processor works: there is no handler for an opcode,
or the one slot that is not free was to be filled.
-/

namespace DmgCore

/-- The faults of the processor. -/
inductive Fault where
  /-- The primary table has no handler for the opcode read at an address. -/
  | noHandler (opcode : UInt8) (pc : UInt16)
  /-- The extended table has no handler; the address is that of the opcode that
  led to the table. -/
  | noExtendedHandler (opcode : UInt8) (pc : UInt16)
  /-- A handler was to replace the way into the extended table. -/
  | reservedSlot
  deriving DecidableEq, Repr

namespace Fault

/-- The text of a fault. -/
def message : Fault → String
  | noHandler opcode pc =>
    s!"no handler registered for opcode 0x{Hex.byte opcode} at PC=0x{Hex.word pc}"
  | noExtendedHandler opcode pc =>
    s!"no handler registered for extended opcode 0xCB 0x{Hex.byte opcode} at PC=0x{Hex.word pc}"
  | reservedSlot =>
    "primary opcode 0xCB is the extended-table prefix and cannot be replaced"

end Fault

end DmgCore
