import DmgCore.Cpu.Flags
import DmgCore.Word

/-!
The register file.

Storage is seven bytes, the flags and the two words SP and PC. The pairs AF, BC,
DE and HL are views: reading one puts two bytes together, writing one splits the
word, and nothing else is stored, so a pair and its halves cannot disagree.
-/

namespace DmgCore

/-- The registers of the processor. -/
structure Registers where
  a : UInt8 := 0
  f : Flags := {}
  b : UInt8 := 0
  c : UInt8 := 0
  d : UInt8 := 0
  e : UInt8 := 0
  h : UInt8 := 0
  l : UInt8 := 0
  sp : UInt16 := 0
  pc : UInt16 := 0
  deriving DecidableEq, Repr

namespace Registers

/-! ### Reading -/

/-- The pair of A and F. -/
def af (regs : Registers) : UInt16 := Word.ofBytes regs.a regs.f.toByte

/-- The pair of B and C. -/
def bc (regs : Registers) : UInt16 := Word.ofBytes regs.b regs.c

/-- The pair of D and E. -/
def de (regs : Registers) : UInt16 := Word.ofBytes regs.d regs.e

/-- The pair of H and L. -/
def hl (regs : Registers) : UInt16 := Word.ofBytes regs.h regs.l

/-- Whether all flags of a mask are set. -/
def flag (regs : Registers) (mask : Flags) : Bool := regs.f.contains mask

/-! ### Writing -/

/-- Writes F, of which the upper half is kept. -/
def setF (regs : Registers) (value : UInt8) : Registers := { regs with f := Flags.ofByte value }

/-- Writes A and F. -/
def setAF (regs : Registers) (value : UInt16) : Registers :=
  { regs with a := Word.high value, f := Flags.ofByte (Word.low value) }

/-- Writes B and C. -/
def setBC (regs : Registers) (value : UInt16) : Registers :=
  { regs with b := Word.high value, c := Word.low value }

/-- Writes D and E. -/
def setDE (regs : Registers) (value : UInt16) : Registers :=
  { regs with d := Word.high value, e := Word.low value }

/-- Writes H and L. -/
def setHL (regs : Registers) (value : UInt16) : Registers :=
  { regs with h := Word.high value, l := Word.low value }

/-- Gives all flags of a mask one value. -/
def setFlag (regs : Registers) (mask : Flags) (value : Bool) : Registers :=
  { regs with f := regs.f.set mask value }

/-- Clears all four flags. -/
def clearFlags (regs : Registers) : Registers := { regs with f := {} }

/-- Every register at zero. -/
def cleared : Registers := {}

/-! ### The trace line -/

/-- The four digits of a word behind its name. -/
def traceWord (name : List Char) (value : UInt16) : List Char :=
  name ++ ['=', '0', 'x'] ++ Hex.digits 4 value.toNat ++ [' ']

/-- The characters of the trace line. -/
def traceChars (regs : Registers) : List Char :=
  traceWord ['A', 'F'] regs.af ++ traceWord ['B', 'C'] regs.bc ++ traceWord ['D', 'E'] regs.de
    ++ traceWord ['H', 'L'] regs.hl ++ traceWord ['S', 'P'] regs.sp
    ++ traceWord ['P', 'C'] regs.pc ++ ['['] ++ regs.f.letters ++ [']']

/-- All registers in one line: the pairs, SP and PC in hexadecimal, then the flags
by letter. -/
def trace (regs : Registers) : String := String.ofList regs.traceChars

end Registers

end DmgCore
