import Mathlib.Data.List.Induction
import Mathlib.Order.Bounds.Basic
import DmgCore.Proofs.Bus.WriteList

/-!
Memory after a list of bytes of any length was loaded.

The bytes go to successive addresses, and address `0` follows `0xFFFF`, so a list of more than
`65536` bytes comes round to addresses that it has filled already.

* `FlatMemory.LandsOn`: the byte in a place of a list goes to an address;
* `FlatMemory.load_append`: a list loaded in two parts is loaded as a whole;
* `FlatMemory.read8_load_concat`: what one more byte at the end of a list changes;
* `FlatMemory.read8_load`: an address holds the last byte that went there;
* `FlatMemory.load_holds_last`: the statements together.
-/

namespace DmgCore

/-- The address some places behind another. -/
lemma Word.toNat_add_ofNat (start : UInt16) (n : ℕ) :
    (start + UInt16.ofNat n).toNat = (start.toNat + n) % 65536 := by
  rw [UInt16.toNat_add, UInt16.toNat_ofNat']
  omega

namespace FlatMemory

/-- The byte in place `i` of a list that is loaded at `start` goes to the address `addr`. -/
def LandsOn (start : UInt16) (data : List UInt8) (addr : UInt16) (i : ℕ) : Prop :=
  i < data.length ∧ (start.toNat + i) % 65536 = addr.toNat

/-! ### The last byte to land -/

section Concat

variable {start addr : UInt16} {data : List UInt8} {byte : UInt8}

/-- Behind a list there is one more place, from which the last byte goes to its address. -/
lemma landsOn_concat {i : ℕ} :
    LandsOn start (data ++ [byte]) addr i ↔
      LandsOn start data addr i ∨
        i = data.length ∧ (start.toNat + data.length) % 65536 = addr.toNat := by
  simp only [LandsOn, List.length_append, List.length_singleton]
  constructor
  · rintro ⟨hi, haddr⟩
    by_cases hlast : i = data.length
    · exact Or.inr ⟨hlast, hlast ▸ haddr⟩
    · exact Or.inl ⟨by omega, haddr⟩
  · rintro (⟨hi, haddr⟩ | ⟨rfl, haddr⟩)
    · exact ⟨by omega, haddr⟩
    · exact ⟨by omega, haddr⟩

/-- Where the byte at the end of a list lands, it is the last one to land. -/
lemma isGreatest_concat_of_eq (h : (start.toNat + data.length) % 65536 = addr.toNat) :
    IsGreatest {i | LandsOn start (data ++ [byte]) addr i} data.length := by
  refine ⟨landsOn_concat.mpr (Or.inr ⟨rfl, h⟩), fun i hi => ?_⟩
  rcases landsOn_concat.mp hi with hearlier | ⟨rfl, -⟩
  · exact hearlier.1.le
  · exact le_rfl

/-- Elsewhere the byte at the end of a list does not land. -/
lemma landsOn_concat_of_ne (h : (start.toNat + data.length) % 65536 ≠ addr.toNat) :
    LandsOn start (data ++ [byte]) addr = LandsOn start data addr := by
  funext i
  rw [landsOn_concat, eq_iff_iff, or_iff_left]
  exact fun hlast => h hlast.2

end Concat

/-! ### Loading -/

/-- A list loaded in two parts, the second one behind the first, is loaded as a whole. -/
lemma load_append (mem : FlatMemory) (start : UInt16) (first second : List UInt8) :
    mem.load start (first ++ second) =
      (mem.load start first).load (start + UInt16.ofNat first.length) second := by
  induction first generalizing mem start with
  | nil =>
      have hzero : start + UInt16.ofNat ([] : List UInt8).length = start := UInt16.add_zero start
      rw [List.nil_append, load, hzero]
  | cons byte first ih =>
      have hbehind : start + 1 + UInt16.ofNat first.length =
          start + UInt16.ofNat (byte :: first).length := by
        rw [List.length_cons, Nat.add_comm, UInt16.ofNat_add, UInt16.add_assoc]
        rfl
      rw [List.cons_append, load, load, ih, hbehind]

/-- One more byte is found at the address behind the others, and nothing else changes. -/
lemma read8_load_concat (mem : FlatMemory) (start : UInt16) (data : List UInt8) (byte : UInt8)
    (addr : UInt16) :
    Bus.read8 (mem.load start (data ++ [byte])) addr =
      if (start.toNat + data.length) % 65536 = addr.toNat then byte
      else Bus.read8 (mem.load start data) addr := by
  have hbehind : addr = start + UInt16.ofNat data.length ↔
      (start.toNat + data.length) % 65536 = addr.toNat := by
    rw [← UInt16.toNat_inj, Word.toNat_add_ofNat, eq_comm]
  rw [load_append, load, load, read8_write8]
  simp only [hbehind]

/-- An address holds the last of the bytes that went there, or what it held before if none
did. -/
lemma read8_load (mem : FlatMemory) (start : UInt16) (data : List UInt8) (addr : UInt16) :
    (∃ i, IsGreatest {i | LandsOn start data addr i} i ∧
      data[i]? = some (Bus.read8 (mem.load start data) addr)) ∨
    ((∀ i, ¬ LandsOn start data addr i) ∧
      Bus.read8 (mem.load start data) addr = Bus.read8 mem addr) := by
  induction data using List.reverseRecOn with
  | nil => exact Or.inr ⟨fun i hi => absurd hi.1 (Nat.not_lt_zero i), rfl⟩
  | append_singleton data byte ih =>
      rw [read8_load_concat]
      by_cases hlast : (start.toNat + data.length) % 65536 = addr.toNat
      · rw [if_pos hlast]
        exact Or.inl ⟨_, isGreatest_concat_of_eq hlast, List.getElem?_concat_length⟩
      · rw [if_neg hlast, landsOn_concat_of_ne hlast]
        refine ih.imp_left ?_
        rintro ⟨i, hgreatest, hbyte⟩
        exact ⟨i, hgreatest, by rw [List.getElem?_append_left hgreatest.1.1, hbyte]⟩

/-- **An address holds the byte that was loaded there last.**  Let a list of bytes of any
length be loaded.  Every address holds the byte in the greatest place of the list from which
one goes to that address, or what it held before if there is no such place; and more bytes
behind the list can as well be loaded on their own, at the address behind it. -/
theorem load_holds_last (mem : FlatMemory) (start : UInt16) (data : List UInt8) :
    (∀ addr,
      (∃ i, IsGreatest {i | LandsOn start data addr i} i ∧
        data[i]? = some (Bus.read8 (mem.load start data) addr)) ∨
      ((∀ i, ¬ LandsOn start data addr i) ∧
        Bus.read8 (mem.load start data) addr = Bus.read8 mem addr)) ∧
    ∀ more, mem.load start (data ++ more) =
      (mem.load start data).load (UInt16.ofNat (start.toNat + data.length)) more := by
  refine ⟨read8_load mem start data, fun more => ?_⟩
  rw [load_append, UInt16.ofNat_add, UInt16.ofNat_toNat]

/-- A list with one byte more than there are addresses, loaded at the last of them: its last
byte comes round to the address that the first one went to. -/
theorem load_holds_last_lapped :
    Bus.read8 (FlatMemory.zero.load 0xFFFF (List.replicate 65536 1 ++ [2])) 0xFFFF = 2 := by
  generalize hones : List.replicate 65536 (1 : UInt8) = ones
  have hlength : ones.length = 65536 := by rw [← hones, List.length_replicate]
  have hlands : LandsOn 0xFFFF (ones ++ [2]) 0xFFFF 65536 := by
    rw [LandsOn, List.length_append, hlength]
    decide
  obtain ⟨hbytes, -⟩ := load_holds_last FlatMemory.zero 0xFFFF (ones ++ [2])
  rcases hbytes 0xFFFF with ⟨i, hgreatest, hbyte⟩ | ⟨hnone, -⟩
  · have hi : i = ones.length := by
      have hlt := hgreatest.1.1
      have hle := hgreatest.2 hlands
      rw [List.length_append, List.length_singleton] at hlt
      omega
    rw [hi, List.getElem?_concat_length] at hbyte
    exact (Option.some.inj hbyte).symm
  · exact absurd hlands (hnone _)

end FlatMemory

end DmgCore
