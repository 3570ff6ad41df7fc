import Mathlib.Tactic.Common
import DmgCore.Proofs.MemoryLoad

/-!
The memory made from a snapshot.

* `FlatMemory.ofImage_eq_ok`, `FlatMemory.ofImage_eq_error`: a snapshot is refused just if it is
  larger than the address space;
* `FlatMemory.read8_padded`: the memory holds the snapshot, and zeros behind it;
* `FlatMemory.padded_eq_load`: it is zeroed memory into which the snapshot was loaded;
* `FlatMemory.padded_append_zeros`: zeros at the end of a snapshot make no difference;
* `FlatMemory.padded_toList`: all bytes of a memory are a snapshot of it;
* `FlatMemory.ofImage_holds_image`: the statements together.
-/

namespace DmgCore

namespace FlatMemory

variable {image : List UInt8}

lemma ofImage_eq_ok (h : image.length ≤ memorySize) :
    ofImage image = .ok (padded image) := if_pos h

lemma ofImage_eq_error (h : memorySize < image.length) :
    ofImage image = .error (.imageTooLarge image.length) := if_neg (Nat.not_le.mpr h)

/-- The only fault of a snapshot is its length, which the fault carries. -/
lemma ofImage_eq_error_iff (fault : MemoryFault) :
    ofImage image = .error fault ↔
      memorySize < image.length ∧ fault = .imageTooLarge image.length := by
  by_cases hfits : image.length ≤ memorySize
  · rw [ofImage_eq_ok hfits]
    exact ⟨nofun, fun h => absurd h.1 (Nat.not_lt.mpr hfits)⟩
  · rw [ofImage_eq_error (Nat.lt_of_not_le hfits), Except.error.injEq, eq_comm]
    exact (and_iff_right (Nat.lt_of_not_le hfits)).symm

/-! ### The bytes of a snapshot -/

/-- The byte at an address stands in that place of the list of all bytes. -/
lemma getElem?_toList (mem : FlatMemory) (addr : UInt16) :
    mem.toList[addr.toNat]? = some (Bus.read8 mem addr) := by
  have haddr : addr.toNat < mem.toList.length := by
    rw [length_toList]
    exact addr.toNat_lt
  rw [List.getElem?_eq_getElem haddr]
  rfl

/-- A byte of the snapshot, or zero behind its end. -/
lemma read8_padded (image : List UInt8) (addr : UInt16) :
    Bus.read8 (padded image) addr = (image[addr.toNat]?).getD 0 := by
  have hplace : addr.toNat < zero.bytes.toArray.size := by
    rw [Vector.size_toArray]
    exact addr.toNat_lt
  have hbyte := getElem?_toList (padded image) addr
  rw [toList, padded, Vector.toList_mk, Array.getElem?_toList, getElem?_overwrite _ _ _ _ hplace,
    Nat.zero_add, Nat.sub_zero] at hbyte
  by_cases hinside : addr.toNat < image.length
  · rw [if_pos ⟨Nat.zero_le _, hinside⟩] at hbyte
    rw [hbyte, Option.getD_some, padded]
  · have hzero : zero.bytes.toArray[addr.toNat]? = some (0 : UInt8) := by
      rw [zero, Vector.toArray_replicate, Array.getElem?_replicate, if_pos addr.toNat_lt]
    rw [if_neg fun h => hinside h.2, hzero, Option.some_inj] at hbyte
    rw [List.getElem?_eq_none (Nat.not_lt.mp hinside), Option.getD_none, padded, ← hbyte]

/-- All bytes are those of the snapshot and the zeros behind them. -/
lemma toList_padded (h : image.length ≤ memorySize) :
    (padded image).toList = image ++ List.replicate (memorySize - image.length) 0 := by
  have hfits : image.length ≤ zero.bytes.toArray.size := by rwa [Vector.size_toArray]
  rw [toList, padded, Vector.toList_mk, toList_overwrite_zero _ _ hfits, zero,
    Vector.toArray_replicate, Array.toList_replicate, List.drop_replicate]

/-- Zeroed memory into which a list was loaded that does not come round: a byte of the list, or
zero behind its end. -/
lemma read8_load_zero (h : image.length ≤ memorySize) (addr : UInt16) :
    Bus.read8 (zero.load 0 image) addr = (image[addr.toNat]?).getD 0 := by
  rcases read8_load zero 0 image addr with ⟨i, hgreatest, hbyte⟩ | ⟨hnone, hold⟩
  · obtain ⟨hi, haddr⟩ := hgreatest.1
    have hplace : i = addr.toNat := by
      have hlt : i < 65536 := hi.trans_le h
      rwa [UInt16.toNat_zero, Nat.zero_add, Nat.mod_eq_of_lt hlt] at haddr
    rw [← hplace, hbyte, Option.getD_some]
  · have hbehind : image.length ≤ addr.toNat := by
      by_contra hinside
      refine hnone addr.toNat ⟨by omega, ?_⟩
      rw [UInt16.toNat_zero, Nat.zero_add, Nat.mod_eq_of_lt addr.toNat_lt]
    rw [hold, read8_zero, List.getElem?_eq_none hbehind, Option.getD_none]

/-! ### Three ways to the same memory -/

/-- A snapshot is in memory as if it had been loaded into zeroed memory. -/
lemma padded_eq_load (h : image.length ≤ memorySize) : padded image = zero.load 0 image :=
  ext_read8 fun addr => by rw [read8_padded, read8_load_zero h]

/-- Zeros at the end of a snapshot make no difference. -/
lemma padded_append_zeros (image : List UInt8) (n : ℕ) :
    padded (image ++ List.replicate n 0) = padded image := by
  refine ext_read8 fun addr => ?_
  rw [read8_padded, read8_padded]
  by_cases hinside : addr.toNat < image.length
  · rw [List.getElem?_append_left hinside]
  · rw [List.getElem?_append_right (by omega), List.getElem?_replicate,
      List.getElem?_eq_none (by omega : image.length ≤ addr.toNat)]
    split <;> rfl

/-- All bytes of a memory are a snapshot of it. -/
lemma padded_toList (mem : FlatMemory) : padded mem.toList = mem :=
  ext_read8 fun addr => by rw [read8_padded, getElem?_toList, Option.getD_some]

/-- **A snapshot is refused just if it does not fit, and else is in memory with zeros behind
it.**  The fault of a snapshot that is refused carries its length.  A snapshot that fits gives
the memory of which all bytes are those of the snapshot and as many zeros as are missing; the
same memory comes from loading the snapshot into zeroed memory, and from the snapshot with any
zeros behind it that still fit.  All bytes of a memory, as a snapshot, give that memory. -/
theorem ofImage_holds_image (image : List UInt8) (mem : FlatMemory) :
    (∀ fault, ofImage image = .error fault ↔
      memorySize < image.length ∧ fault = .imageTooLarge image.length) ∧
    (image.length ≤ memorySize → ∃ loaded, ofImage image = .ok loaded ∧
      loaded.toList = image ++ List.replicate (memorySize - image.length) 0 ∧
      loaded = zero.load 0 image ∧
      ∀ n, image.length + n ≤ memorySize →
        ofImage (image ++ List.replicate n 0) = .ok loaded) ∧
    ofImage mem.toList = .ok mem := by
  refine ⟨ofImage_eq_error_iff, fun h => ?_, ?_⟩
  · refine ⟨_, ofImage_eq_ok h, toList_padded h, padded_eq_load h, fun n hn => ?_⟩
    have hlength : (image ++ List.replicate n 0).length ≤ memorySize := by
      rw [List.length_append, List.length_replicate]
      exact hn
    rw [ofImage_eq_ok hlength, padded_append_zeros]
  · rw [ofImage_eq_ok mem.length_toList.le, padded_toList]

/-- A snapshot with a byte for every address is taken as it is, and one with a byte more is
refused. -/
theorem ofImage_holds_image_boundary :
    (∃ loaded, ofImage (List.replicate 65536 7) = .ok loaded ∧
      loaded.toList = List.replicate 65536 7) ∧
    ofImage (List.replicate 65537 7) = .error (.imageTooLarge 65537) := by
  have hlength : ∀ n, (List.replicate n (7 : UInt8)).length = n := fun _ =>
    List.length_replicate
  obtain ⟨-, hfull, -⟩ := ofImage_holds_image (List.replicate 65536 7) zero
  obtain ⟨hrefused, -⟩ := ofImage_holds_image (List.replicate 65537 7) zero
  rw [hlength] at hfull hrefused
  obtain ⟨loaded, hloaded, hbytes, -⟩ := hfull le_rfl
  refine ⟨⟨loaded, hloaded, ?_⟩, (hrefused _).mpr ⟨by decide, rfl⟩⟩
  rw [hbytes, Nat.sub_self, List.replicate_zero, List.append_nil]

end FlatMemory

end DmgCore
