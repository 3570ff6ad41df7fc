import DmgCore.Bus.Basic

/-!
An address space parts of which ignore writes, as read-only memory does.
-/

namespace DmgCore

/-- A range of addresses, both ends included. -/
structure AddressRange where
  first : UInt16
  last : UInt16
  deriving DecidableEq, Repr

/-- Whether an address lies in the range. -/
def AddressRange.contains (range : AddressRange) (addr : UInt16) : Bool :=
  range.first ≤ addr && addr ≤ range.last

/-- An address space with ranges that ignore writes. -/
structure WriteProtected (σ : Type) where
  space : σ
  ranges : List AddressRange := []

namespace WriteProtected

variable {σ : Type} [Bus σ]

/-- Whether writes to an address are dropped. -/
def isProtected (bus : WriteProtected σ) (addr : UInt16) : Bool :=
  bus.ranges.any (·.contains addr)

instance : Bus (WriteProtected σ) where
  read8 bus addr := Bus.read8 bus.space addr
  write8 bus addr value :=
    if bus.isProtected addr then bus
    else { bus with space := Bus.write8 bus.space addr value }

end WriteProtected

end DmgCore
