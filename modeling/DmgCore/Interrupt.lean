import DmgCore.Bus.Basic
import DmgCore.MemoryMap
import DmgCore.Text.BitNames

/-!
The five interrupt sources.

A source owns one bit of the request register IF and of the enable register IE.
Sources are listed in order of priority, which is the order of their bits, and
each has a fixed address at which its handler begins.
-/

namespace DmgCore

/-- The sources of interrupts, most urgent first. -/
inductive Interrupt where
  | vBlank
  | lcdStat
  | timer
  | serial
  | joypad
  deriving DecidableEq, Repr

namespace Interrupt

/-- All sources, most urgent first. -/
def all : List Interrupt := [vBlank, lcdStat, timer, serial, joypad]

theorem mem_all (source : Interrupt) : source ∈ all := by cases source <;> decide

/-- The number of a source's bit in IF and IE. -/
def index : Interrupt → Nat
  | vBlank => 0
  | lcdStat => 1
  | timer => 2
  | serial => 3
  | joypad => 4

theorem index_lt (source : Interrupt) : source.index < 5 := by cases source <;> decide

/-- A source is determined by its bit. -/
theorem index_inj {source other : Interrupt} (h : source.index = other.index) :
    source = other := by
  cases source <;> cases other <;> simp_all [index]

/-- The address at which the handler of a source begins. -/
def vector (source : Interrupt) : UInt16 := UInt16.ofNat (0x40 + 8 * source.index)

/-- The byte in which exactly the source's bit is set. -/
def mask (source : Interrupt) : UInt8 := UInt8.ofNat (1 <<< source.index)

/-- Whether the source's bit is set in a byte. -/
def isSet (source : Interrupt) (bits : UInt8) : Bool := bits.toNat.testBit source.index

/-- The most urgent source whose bit is set. -/
def mostUrgent? (pending : UInt8) : Option Interrupt := all.find? (·.isSet pending)

/-- Sets the source's bit in IF. -/
def request {σ : Type} [Bus σ] (bus : σ) (source : Interrupt) : σ :=
  Bus.write8 bus MemoryMap.interruptRequest
    (Bus.read8 bus MemoryMap.interruptRequest ||| source.mask)

/-- The names of the bits of IF and IE. -/
def bitNames : BitNames where
  title := "InterruptFlags"
  entries :=
    [(vBlank.mask, "VBLANK"), (lcdStat.mask, "LCD_STAT"), (timer.mask, "TIMER"),
     (serial.mask, "SERIAL"), (joypad.mask, "JOYPAD")]

end Interrupt

end DmgCore
