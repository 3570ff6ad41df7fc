import DmgCore.Bus.Basic
import DmgCore.Overwrite

/-!
Flat memory: `65536` bytes without banks or side effects.

* `FlatMemory.ofImage`: the memory that holds a snapshot at address `0` and zeros
  behind it, or the reason why the snapshot does not fit;
* `FlatMemory.load`: writes bytes at successive addresses, from `0xFFFF` on to `0`;
* `FlatMemory.read8_write8_self`, `FlatMemory.read8_write8_of_ne`: a write changes
  the byte it names and no other.
-/

namespace DmgCore

/-- The number of addresses. -/
abbrev memorySize : Nat := 65536

/-- The place of an address in a memory. -/
def cell (addr : UInt16) : Fin memorySize := ⟨addr.toNat, addr.toNat_lt⟩

/-- Addresses with the same place are equal. -/
theorem cell_inj {addr other : UInt16} (h : (cell addr).val = (cell other).val) : addr = other :=
  UInt16.toNat_inj.mp h

/-- Why bytes are not a memory. -/
inductive MemoryFault where
  /-- The image has more bytes than there are addresses. -/
  | imageTooLarge (length : Nat)
  deriving DecidableEq, Repr

/-- The text of a memory fault. -/
def MemoryFault.message : MemoryFault → String
  | .imageTooLarge length =>
    s!"memory image is {length} bytes, larger than the 64 KiB address space"

/-- A byte for every address. -/
structure FlatMemory where
  bytes : Vector UInt8 memorySize
  deriving DecidableEq

namespace FlatMemory

instance : Bus FlatMemory where
  read8 mem addr := mem.bytes[cell addr]
  write8 mem addr value := ⟨mem.bytes.set (cell addr) value⟩

/-- Zero at every address. -/
def zero : FlatMemory := ⟨Vector.replicate memorySize 0⟩

/-- Writes bytes one after the other, from an address on; address `0` follows
`0xFFFF`, so bytes beyond `65536` go over earlier ones. -/
def load (mem : FlatMemory) (addr : UInt16) : List UInt8 → FlatMemory
  | [] => mem
  | byte :: rest => (Bus.write8 mem addr byte).load (addr + 1) rest

/-- Zeroed memory with bytes copied over its front. -/
def padded (image : List UInt8) : FlatMemory :=
  ⟨⟨overwrite zero.bytes.toArray 0 image, by simp⟩⟩

/-- The memory that holds an image at address `0` and zeros behind it. -/
def ofImage (image : List UInt8) : Except MemoryFault FlatMemory :=
  if image.length ≤ memorySize then .ok (padded image)
  else .error (.imageTooLarge image.length)

/-- All bytes in order of address. -/
def toList (mem : FlatMemory) : List UInt8 := mem.bytes.toList

/-- The bytes from one position up to another, if that is a part of the memory. -/
def slice? (mem : FlatMemory) (start stop : Nat) : Option (List UInt8) :=
  if start ≤ stop ∧ stop ≤ memorySize then some (mem.bytes.toArray.extract start stop).toList
  else none

/-- A one-line description. -/
def describe (mem : FlatMemory) : String :=
  s!"FlatMemory \x7b len: {mem.bytes.size} \x7d"

@[simp] theorem length_toList (mem : FlatMemory) : mem.toList.length = memorySize := by
  simp [toList]

theorem read8_eq (mem : FlatMemory) (addr : UInt16) : Bus.read8 mem addr = mem.bytes[cell addr] :=
  rfl

@[simp] theorem read8_write8_self (mem : FlatMemory) (addr : UInt16) (value : UInt8) :
    Bus.read8 (Bus.write8 mem addr value) addr = value := by
  simp [Bus.read8, Bus.write8]

theorem read8_write8_of_ne (mem : FlatMemory) {addr other : UInt16} (h : other ≠ addr)
    (value : UInt8) : Bus.read8 (Bus.write8 mem addr value) other = Bus.read8 mem other := by
  have hne : (cell addr).val ≠ (cell other).val := fun e => h (cell_inj e).symm
  simp [Bus.read8, Bus.write8, Vector.getElem_set_ne, hne]

/-- Two memories with the same byte at every address are equal. -/
theorem ext_read8 {mem mem' : FlatMemory}
    (h : ∀ addr, Bus.read8 mem addr = Bus.read8 mem' addr) : mem = mem' := by
  obtain ⟨bytes⟩ := mem
  obtain ⟨bytes'⟩ := mem'
  congr 1
  apply Vector.ext
  intro i hi
  have hi' : i < 65536 := hi
  simpa [Bus.read8, cell, UInt16.toNat_ofNat', Nat.mod_eq_of_lt hi'] using h (UInt16.ofNat i)

end FlatMemory

end DmgCore
