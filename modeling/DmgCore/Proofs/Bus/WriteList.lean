import Mathlib.Tactic.Common
import DmgCore.Bus.Recorded
import DmgCore.FlatMemory

/-!
Lists of writes.

* `Bus.writeAll`: an address space after a list of writes, made in order;
* `Recorded.writes_writeAll`: a recording space shows just that list;
* `FlatMemory.read8_write8`: what is found in memory after one write;
* `LocalBus`: the address spaces in which a write changes no byte but the one it names.
-/

namespace DmgCore

namespace Bus

variable {σ : Type} [Bus σ]

/-- The address space after a list of writes, made in order. -/
def writeAll (bus : σ) (writes : List (UInt16 × UInt8)) : σ :=
  writes.foldl (fun space write => write8 space write.1 write.2) bus

@[simp] lemma writeAll_nil (bus : σ) : writeAll bus [] = bus := rfl

@[simp] lemma writeAll_cons (bus : σ) (write : UInt16 × UInt8) (writes : List (UInt16 × UInt8)) :
    writeAll bus (write :: writes) = writeAll (write8 bus write.1 write.2) writes := rfl

end Bus

/-- A recording space shows the writes made to it, in order and none besides. -/
lemma Recorded.writes_writeAll {σ : Type} [Bus σ] (bus : Recorded σ)
    (writes : List (UInt16 × UInt8)) :
    (Bus.writeAll bus writes).writes = bus.writes ++ writes.toArray := by
  induction writes generalizing bus with
  | nil => simp
  | cons write writes ih =>
      rw [Bus.writeAll_cons, ih, writes_write8, List.toArray_cons, Array.push_eq_append,
        Array.append_assoc]

@[simp] lemma FlatMemory.read8_zero (addr : UInt16) : Bus.read8 FlatMemory.zero addr = 0 := by
  simp [read8_eq, zero]

/-- A write changes the byte it names and no other. -/
lemma FlatMemory.read8_write8 (mem : FlatMemory) (addr : UInt16) (value : UInt8) (other : UInt16) :
    Bus.read8 (Bus.write8 mem addr value) other =
      if other = addr then value else Bus.read8 mem other := by
  by_cases h : other = addr
  · rw [if_pos h, h, read8_write8_self]
  · rw [if_neg h, read8_write8_of_ne _ h]

/-- An address space in which a write changes no byte but the one it names. -/
class LocalBus (σ : Type) [Bus σ] : Prop where
  read8_write8_of_ne (bus : σ) {addr other : UInt16} (value : UInt8) (h : other ≠ addr) :
    Bus.read8 (Bus.write8 bus addr value) other = Bus.read8 bus other

instance : LocalBus FlatMemory where
  read8_write8_of_ne mem _ _ value h := mem.read8_write8_of_ne h value

/-- Recording writes does not spread them. -/
instance {σ : Type} [Bus σ] [LocalBus σ] : LocalBus (Recorded σ) where
  read8_write8_of_ne bus _ _ value h := LocalBus.read8_write8_of_ne bus.space value h

end DmgCore
