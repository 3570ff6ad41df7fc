import DmgCore.Bus.Basic

/-!
An address space that remembers every write it is asked to make, in order.

The record holds requests: a write that the space underneath drops is in it too.
-/

namespace DmgCore

/-- An address space and the writes made to it, oldest first. -/
structure Recorded (σ : Type) where
  space : σ
  writes : Array (UInt16 × UInt8) := #[]

namespace Recorded

variable {σ : Type} [Bus σ]

instance : Bus (Recorded σ) where
  read8 bus addr := Bus.read8 bus.space addr
  write8 bus addr value :=
    { space := Bus.write8 bus.space addr value, writes := bus.writes.push (addr, value) }

/-- Forgets the writes recorded so far. -/
def forget (bus : Recorded σ) : Recorded σ := { bus with writes := #[] }

@[simp] theorem read8_eq (bus : Recorded σ) (addr : UInt16) :
    Bus.read8 bus addr = Bus.read8 bus.space addr := rfl

@[simp] theorem space_write8 (bus : Recorded σ) (addr : UInt16) (value : UInt8) :
    (Bus.write8 bus addr value).space = Bus.write8 bus.space addr value := rfl

@[simp] theorem writes_write8 (bus : Recorded σ) (addr : UInt16) (value : UInt8) :
    (Bus.write8 bus addr value).writes = bus.writes.push (addr, value) := rfl

end Recorded

end DmgCore
