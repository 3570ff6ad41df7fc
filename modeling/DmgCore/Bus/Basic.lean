import DmgCore.Word

/-!
The address space as the processor and the renderer see it: `65536` cells of one
byte, read and written one at a time.

Addresses are words, so none is out of range. A word in memory is two bytes with
the low one first, and the cell after `0xFFFF` is the cell `0`.
-/

namespace DmgCore

/-- Anything that can be read and written like an address space. A write returns
the changed space; what it changes is up to the space, which may drop it. -/
class Bus (σ : Type) where
  /-- The byte at an address. -/
  read8 : σ → UInt16 → UInt8
  /-- The space after a byte was written to an address. -/
  write8 : σ → UInt16 → UInt8 → σ

namespace Bus

variable {σ : Type} [Bus σ]

/-- The word at an address: low byte there, high byte at the next address. -/
def read16 (bus : σ) (addr : UInt16) : UInt16 :=
  Word.ofBytes (read8 bus (addr + 1)) (read8 bus addr)

/-- Writes a word as two bytes: first the low one at the address, then the high
one at the next address. -/
def write16 (bus : σ) (addr value : UInt16) : σ :=
  write8 (write8 bus addr (Word.low value)) (addr + 1) (Word.high value)

end Bus

end DmgCore
