import Mathlib.Tactic.IntervalCases
import DmgCore.Cpu.Machine
import DmgCore.Proofs.ByteBits
import DmgCore.Proofs.LastPut

/-!
Registers after any number of writes.

* `RegisterWrite`, `Machine.writeRegister`: a write to one of the views of the register file;
* `RegisterWrite.byte?`, `RegisterWrite.sp?`, `RegisterWrite.pc?`: what a write puts into a
  register;
* `RegisterWrite.load?`, `RegisterWrite.adjust`: what a write loads F with, and what a write that
  does not load F makes of it;
* `Flags.testBit_toByte`: the bits of F, with what its operations do to them;
* `Registers.Coherent`: the views of a register file agree with each other;
* `Machine.writeRegisters_holds_last`: the statements together.
-/

namespace DmgCore

/-! ### The bits of F -/

namespace Flags

/-- The flag at a position of F. -/
def atBit (flags : Flags) : ℕ → Bool
  | 7 => flags.zero
  | 6 => flags.subtract
  | 5 => flags.halfCarry
  | 4 => flags.carry
  | _ => false

/-- The bits of F are the flags. -/
lemma testBit_toByte (flags : Flags) {i : ℕ} (hi : i < 8) :
    flags.toByte.toNat.testBit i = flags.atBit i := by
  obtain ⟨z, n, h, c⟩ := flags
  interval_cases i <;> cases z <;> cases n <;> cases h <;> cases c <;> rfl

/-- Reading F back gives the upper half of the byte that was written. -/
lemma toByte_ofByte (byte : UInt8) : (ofByte byte).toByte = byte &&& 0xF0 := by
  refine Byte.eq_of_testBit_eq fun i hi => ?_
  rw [testBit_toByte _ hi, UInt8.toNat_and, Nat.testBit_and]
  interval_cases i <;> simp [atBit, ofByte, Nat.testBit]

/-- A flag of the mask gets the value, every other one stays. -/
lemma atBit_set (flags mask : Flags) (value : Bool) (i : ℕ) :
    (flags.set mask value).atBit i = bif mask.atBit i then value else flags.atBit i := by
  simp only [atBit]
  split <;> rfl

/-- Setting the flags of a mask sets these bits of F. -/
lemma toByte_set_true (flags mask : Flags) :
    (flags.set mask true).toByte = flags.toByte ||| mask.toByte := by
  refine Byte.eq_of_testBit_eq fun i hi => ?_
  rw [UInt8.toNat_or, Nat.testBit_or, testBit_toByte _ hi, testBit_toByte _ hi,
    testBit_toByte _ hi, atBit_set]
  cases mask.atBit i <;> simp

/-- Clearing the flags of a mask clears these bits of F. -/
lemma toByte_set_false (flags mask : Flags) :
    (flags.set mask false).toByte = flags.toByte &&& ~~~mask.toByte := by
  refine Byte.eq_of_testBit_eq fun i hi => ?_
  rw [Byte.testBit_and_not, testBit_toByte _ hi, testBit_toByte _ hi, testBit_toByte _ hi,
    atBit_set]
  cases mask.atBit i <;> simp

/-- All flags of a mask are set if F has all bits of the mask. -/
lemma contains_iff_testBit (flags mask : Flags) :
    flags.contains mask = true ↔
      ∀ i < 8, mask.toByte.toNat.testBit i = true → flags.toByte.toNat.testBit i = true := by
  have hbits : (∀ i < 8, mask.toByte.toNat.testBit i = true →
      flags.toByte.toNat.testBit i = true) ↔
      ∀ i < 8, mask.atBit i = true → flags.atBit i = true :=
    forall₂_congr fun i hi => by rw [testBit_toByte _ hi, testBit_toByte _ hi]
  have himp : ∀ b c : Bool, (!b || c) = true ↔ (b = true → c = true) := by decide
  -- one condition for each of the four flags, against one for each of the eight positions
  simp only [hbits, contains, Bool.and_eq_true, himp]
  constructor
  · rintro ⟨⟨⟨hzero, hsubtract⟩, hhalfCarry⟩, hcarry⟩ i hi
    interval_cases i
    all_goals first | assumption | exact nofun
  · intro hall
    exact ⟨⟨⟨hall 7 (by decide), hall 6 (by decide)⟩, hall 5 (by decide)⟩, hall 4 (by decide)⟩

end Flags

/-! ### Registers and the writes to them -/

/-- A register of one byte that is stored as it is, which is every one but F. -/
inductive ByteRegister where
  | a
  | b
  | c
  | d
  | e
  | h
  | l
  deriving DecidableEq

namespace Registers

/-- The byte in a register. -/
def byte (regs : Registers) : ByteRegister → UInt8
  | .a => regs.a
  | .b => regs.b
  | .c => regs.c
  | .d => regs.d
  | .e => regs.e
  | .h => regs.h
  | .l => regs.l

/-- Puts a byte into a register. -/
def setByte (regs : Registers) (value : UInt8) : ByteRegister → Registers
  | .a => { regs with a := value }
  | .b => { regs with b := value }
  | .c => { regs with c := value }
  | .d => { regs with d := value }
  | .e => { regs with e := value }
  | .h => { regs with h := value }
  | .l => { regs with l := value }

/-- The views of a register file agree with each other: a pair is made of its two halves, the
upper half of F is the four flags and the lower one is zero, and a mask of flags is set if all
its bits are. -/
structure Coherent (regs : Registers) : Prop where
  af : regs.af.toNat = 256 * regs.a.toNat + regs.f.toByte.toNat
  bc : regs.bc.toNat = 256 * regs.b.toNat + regs.c.toNat
  de : regs.de.toNat = 256 * regs.d.toNat + regs.e.toNat
  hl : regs.hl.toNat = 256 * regs.h.toNat + regs.l.toNat
  f_bits : ∀ i < 8, regs.f.toByte.toNat.testBit i = regs.f.atBit i
  f_low : regs.f.toByte &&& 0x0F = 0
  af_low : regs.af &&& 0x000F = 0
  flag : ∀ mask, regs.flag mask = true ↔
    ∀ i < 8, mask.toByte.toNat.testBit i = true → regs.f.toByte.toNat.testBit i = true

lemma coherent (regs : Registers) : regs.Coherent where
  af := Word.toNat_ofBytes ..
  bc := Word.toNat_ofBytes ..
  de := Word.toNat_ofBytes ..
  hl := Word.toNat_ofBytes ..
  f_bits := fun _ hi => regs.f.testBit_toByte hi
  f_low := by
    apply UInt8.toNat_inj.mp
    rw [UInt8.toNat_and]
    exact (Nat.and_two_pow_sub_one_eq_mod _ 4).trans regs.f.toByte_mod
  af_low := by
    have hf := regs.f.toByte_mod
    apply UInt16.toNat_inj.mp
    rw [UInt16.toNat_and]
    calc regs.af.toNat &&& 15
        = regs.af.toNat % 16 := Nat.and_two_pow_sub_one_eq_mod _ 4
      _ = (256 * regs.a.toNat + regs.f.toByte.toNat) % 16 := by
          rw [Registers.af, Word.toNat_ofBytes]
      _ = 0 := by omega
  flag := regs.f.contains_iff_testBit

end Registers

/-- A write to one of the views of the register file. -/
inductive RegisterWrite where
  | byte (register : ByteRegister) (value : UInt8)
  | f (value : UInt8)
  | af (value : UInt16)
  | bc (value : UInt16)
  | de (value : UInt16)
  | hl (value : UInt16)
  | sp (value : UInt16)
  | pc (value : UInt16)
  | setFlag (mask : Flags) (value : Bool)
  | clearFlags
  | reset
  deriving DecidableEq

namespace RegisterWrite

/-- What a write puts into a register of one byte. -/
def byte? (register : ByteRegister) : RegisterWrite → Option UInt8
  | .byte other value => if other = register then some value else none
  | .af value => if register = .a then some (Word.high value) else none
  | .bc value =>
    if register = .b then some (Word.high value)
    else if register = .c then some (Word.low value) else none
  | .de value =>
    if register = .d then some (Word.high value)
    else if register = .e then some (Word.low value) else none
  | .hl value =>
    if register = .h then some (Word.high value)
    else if register = .l then some (Word.low value) else none
  | .reset => some 0
  | _ => none

/-- What a write puts into SP. -/
def sp? : RegisterWrite → Option UInt16
  | .sp value => some value
  | .reset => some 0
  | _ => none

/-- What a write puts into PC. -/
def pc? : RegisterWrite → Option UInt16
  | .pc value => some value
  | .reset => some 0
  | _ => none

/-- The byte that a write loads F with, the lower half of which has no place there. -/
def load? : RegisterWrite → Option UInt8
  | .f value => some value
  | .af value => some (Word.low value)
  | .reset => some 0
  | _ => none

/-- What a write that does not load F makes of it. -/
def adjust (byte : UInt8) : RegisterWrite → UInt8
  | .setFlag mask true => byte ||| mask.toByte
  | .setFlag mask false => byte &&& ~~~mask.toByte
  | .clearFlags => 0
  | _ => byte

/-- The write changes F. -/
def CoversF : RegisterWrite → Prop
  | .f _ | .af _ | .setFlag _ _ | .clearFlags | .reset => True
  | _ => False

end RegisterWrite

namespace Machine

variable {ε σ : Type}

/-! ### One write -/

/-- Writes to one of the views of the register file. -/
def writeRegister (m : Machine ε σ) : RegisterWrite → Machine ε σ
  | .byte register value => m.mapRegs (·.setByte value register)
  | .f value => m.mapRegs (·.setF value)
  | .af value => m.mapRegs (·.setAF value)
  | .bc value => m.mapRegs (·.setBC value)
  | .de value => m.mapRegs (·.setDE value)
  | .hl value => m.mapRegs (·.setHL value)
  | .sp value => m.setSP value
  | .pc value => m.jump value
  | .setFlag mask value => m.mapRegs (·.setFlag mask value)
  | .clearFlags => m.mapRegs (·.clearFlags)
  | .reset => m.reset

lemma byte_writeRegister (register : ByteRegister) (m : Machine ε σ) (write : RegisterWrite) :
    (m.writeRegister write).cpu.regs.byte register =
      (write.byte? register).getD (m.cpu.regs.byte register) := by
  cases write with
  | byte other => cases other <;> cases register <;> rfl
  | _ => cases register <;> rfl

lemma sp_writeRegister (m : Machine ε σ) (write : RegisterWrite) :
    (m.writeRegister write).cpu.regs.sp = write.sp?.getD m.cpu.regs.sp := by
  cases write with
  | byte register => cases register <;> rfl
  | _ => rfl

lemma pc_writeRegister (m : Machine ε σ) (write : RegisterWrite) :
    (m.writeRegister write).cpu.regs.pc = write.pc?.getD m.cpu.regs.pc := by
  cases write with
  | byte register => cases register <;> rfl
  | _ => rfl

/-- A write that loads F leaves the upper half of the byte there. -/
lemma f_writeRegister_of_load {write : RegisterWrite} {value : UInt8}
    (h : write.load? = some value) (m : Machine ε σ) :
    (m.writeRegister write).cpu.regs.f.toByte = value &&& 0xF0 := by
  cases write with
  | f | af =>
      obtain rfl := Option.some.inj h
      exact Flags.toByte_ofByte _
  | reset =>
      obtain rfl := Option.some.inj h
      exact Flags.toByte_ofByte 0
  | _ => exact absurd h nofun

/-- A write that does not load F adjusts it. -/
lemma f_writeRegister_of_none {write : RegisterWrite} (h : write.load? = none)
    (m : Machine ε σ) :
    (m.writeRegister write).cpu.regs.f.toByte = write.adjust m.cpu.regs.f.toByte := by
  cases write with
  | f | af | reset => exact absurd h nofun
  | byte register => cases register <;> rfl
  | setFlag mask value =>
      cases value with
      | false => exact Flags.toByte_set_false _ mask
      | true => exact Flags.toByte_set_true _ mask
  | _ => rfl

/-- What a write does not cover: the other registers, and all of the machine that is not a
register but for the clock, which is reset with the registers. -/
structure SameElsewhere (write : RegisterWrite) (m m' : Machine ε σ) : Prop where
  byte : ∀ register, write.byte? register = none →
    m'.cpu.regs.byte register = m.cpu.regs.byte register
  sp : write.sp? = none → m'.cpu.regs.sp = m.cpu.regs.sp
  pc : write.pc? = none → m'.cpu.regs.pc = m.cpu.regs.pc
  f : ¬ write.CoversF → m'.cpu.regs.f = m.cpu.regs.f
  ime : m'.cpu.ime = m.cpu.ime
  tables : m'.cpu.tables = m.cpu.tables
  clock : m'.cpu.clock = if write = .reset then 0 else m.cpu.clock
  bus : m'.bus = m.bus
  log : m'.log = m.log

lemma sameElsewhere_writeRegister (m : Machine ε σ) (write : RegisterWrite) :
    SameElsewhere write m (m.writeRegister write) where
  byte := fun register h => by rw [byte_writeRegister, h, Option.getD_none]
  sp := fun h => by rw [sp_writeRegister, h, Option.getD_none]
  pc := fun h => by rw [pc_writeRegister, h, Option.getD_none]
  f := fun h => by
    cases write with
    | byte register => cases register <;> rfl
    | bc | de | hl | sp | pc => rfl
    | _ => exact absurd trivial h
  ime := by cases write <;> rfl
  tables := by cases write <;> rfl
  clock := by cases write <;> rfl
  bus := by cases write <;> rfl
  log := by cases write <;> rfl

/-- The flags of a mask get the value, and every other bit of F stays. -/
lemma testBit_f_setFlag (m : Machine ε σ) (mask : Flags) (value : Bool) {i : ℕ} (hi : i < 8) :
    (m.writeRegister (.setFlag mask value)).cpu.regs.f.toByte.toNat.testBit i =
      bif mask.toByte.toNat.testBit i then value else m.cpu.regs.f.toByte.toNat.testBit i := by
  have hset := m.cpu.regs.f.atBit_set mask value i
  rw [← Flags.testBit_toByte _ hi, ← Flags.testBit_toByte _ hi, ← Flags.testBit_toByte _ hi]
    at hset
  exact hset

/-! ### Any number of writes -/

/-- Makes writes one after the other. -/
def writeRegisters (m : Machine ε σ) (writes : List RegisterWrite) : Machine ε σ :=
  writes.foldl writeRegister m

/-- Where no write loads F, they adjust it in order. -/
lemma f_writeRegisters_of_none {writes : List RegisterWrite}
    (h : ∀ write ∈ writes, write.load? = none) (m : Machine ε σ) :
    (m.writeRegisters writes).cpu.regs.f.toByte =
      writes.foldl RegisterWrite.adjust m.cpu.regs.f.toByte := by
  induction writes generalizing m with
  | nil => rfl
  | cons write writes ih =>
      -- adjusting begins with what the first write leaves in F
      obtain ⟨hfirst, hrest⟩ := List.forall_mem_cons.mp h
      rw [List.foldl_cons, ← f_writeRegister_of_none hfirst]
      exact ih hrest (m.writeRegister write)

/-- Behind the last write that loads F, the others adjust what it left there. -/
lemma f_writeRegisters_of_load (m : Machine ε σ) (before : List RegisterWrite)
    {write : RegisterWrite} {later : List RegisterWrite} {value : UInt8}
    (hload : write.load? = some value) (hlater : ∀ other ∈ later, other.load? = none) :
    (m.writeRegisters (before ++ write :: later)).cpu.regs.f.toByte =
      later.foldl RegisterWrite.adjust (value &&& 0xF0) := by
  rw [writeRegisters, List.foldl_append, List.foldl_cons,
    ← f_writeRegister_of_load hload (before.foldl writeRegister m)]
  exact f_writeRegisters_of_none hlater _

/-! ### The statements together -/

/-- **The views of the register file stay in step.**  After any writes, in any order, each
register but F holds what was put there last, through whatever view.  F holds the upper half of
what it was loaded with last, with the flags that were set and cleared since; if it was never
loaded, these are set and cleared in what it held at first.  All views of the registers agree,
and one write more changes no register that it does not cover and no flag outside its mask. -/
theorem writeRegisters_holds_last (m : Machine ε σ) (writes : List RegisterWrite) :
    (∀ register, LastPut (RegisterWrite.byte? register) writes (m.cpu.regs.byte register)
      ((m.writeRegisters writes).cpu.regs.byte register)) ∧
    LastPut RegisterWrite.sp? writes m.cpu.regs.sp (m.writeRegisters writes).cpu.regs.sp ∧
    LastPut RegisterWrite.pc? writes m.cpu.regs.pc (m.writeRegisters writes).cpu.regs.pc ∧
    (∀ before write later value, writes = before ++ write :: later →
      write.load? = some value → (∀ other ∈ later, other.load? = none) →
      (m.writeRegisters writes).cpu.regs.f.toByte =
        later.foldl RegisterWrite.adjust (value &&& 0xF0)) ∧
    ((∀ write ∈ writes, write.load? = none) →
      (m.writeRegisters writes).cpu.regs.f.toByte =
        writes.foldl RegisterWrite.adjust m.cpu.regs.f.toByte) ∧
    (m.writeRegisters writes).cpu.regs.Coherent ∧
    (∀ write, SameElsewhere write (m.writeRegisters writes)
      ((m.writeRegisters writes).writeRegister write)) ∧
    ∀ mask value, ∀ i < 8,
      ((m.writeRegisters writes).writeRegister
        (.setFlag mask value)).cpu.regs.f.toByte.toNat.testBit i =
        bif mask.toByte.toNat.testBit i then value
        else (m.writeRegisters writes).cpu.regs.f.toByte.toNat.testBit i := by
  refine ⟨fun register => ?_, ?_, ?_, ?_, fun hnone => f_writeRegisters_of_none hnone m,
    Registers.coherent _, sameElsewhere_writeRegister _,
    fun mask value i hi => testBit_f_setFlag _ mask value hi⟩
  · exact lastPut_foldl (·.cpu.regs.byte register) (byte_writeRegister register) writes m
  · exact lastPut_foldl (·.cpu.regs.sp) sp_writeRegister writes m
  · exact lastPut_foldl (·.cpu.regs.pc) pc_writeRegister writes m
  · rintro before write later value rfl hload hlater
    exact f_writeRegisters_of_load m before hload hlater

/-- AF loads F, of which the pair then reads the upper half without the flag that was cleared. -/
example (m : Machine Empty Unit) :
    (m.writeRegisters [.byte .a 0x99, .af 0x12FF, .setFlag { zero := true } false]).cpu.regs.af =
      0x1270 := rfl

end Machine

end DmgCore
