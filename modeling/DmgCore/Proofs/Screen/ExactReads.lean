import Mathlib.Tactic.Common
import DmgCore.Screen.FrameBuffer
import DmgCore.Screen.Picture

/-!
Pixels and rows are read where their coordinates say.

The exact index of a pixel is its row times the width plus its column. Where that number is no
word there is no index, and where it is one it is the index that is computed; so no read goes to
another place than the exact one.

* `getElem?_ofPlace?`: a read at a computed index;
* `FrameBuffer.pixel?_eq`, `Picture.pixel?_eq`: the pixel that a read finds;
* `FrameBuffer.rowAt`, `FrameBuffer.row?_eq`: the run of pixels that is read as a row;
* `Screen.reads_are_exact`: the statements together.
-/

namespace DmgCore

/-- What is read at the index of a place is what stands at its exact number. -/
lemma getElem?_ofPlace? {α : Type} {values : Array α} (hsize : values.size ≤ UInt64.size)
    (x y width : UInt64) :
    (do values[(← Index.ofPlace? x y width).toNat]?) =
      values[y.toNat * width.toNat + x.toNat]? := by
  cases hindex : Index.ofPlace? x y width with
  | some index =>
      rw [Index.ofPlace?_eq_some_iff.mp hindex]
      rfl
  | none =>
      have hlarge := Index.ofPlace?_eq_none_iff.mp hindex
      exact (Array.getElem?_eq_none (Nat.le_trans hsize hlarge)).symm

/-- The pixel at the exact index. -/
lemma Picture.pixel?_eq (picture : Picture) (hsize : picture.pixels.size ≤ UInt64.size)
    (x y : UInt64) :
    picture.pixel? x y = picture.pixels[y.toNat * picture.width.toNat + x.toNat]? :=
  getElem?_ofPlace? hsize x y picture.width

namespace FrameBuffer

lemma toNat_rowStride : rowStride.toNat = 160 := rfl

/-- The pixel at the exact index. -/
lemma pixel?_eq (frame : FrameBuffer) (x y : UInt64) :
    frame.pixel? x y = frame.pixels.toArray[y.toNat * 160 + x.toNat]? := by
  have hsize : frame.pixels.toArray.size ≤ UInt64.size := by
    rw [frame.pixels.size_toArray]
    decide
  simp only [pixel?, ← Vector.getElem?_toArray]
  exact getElem?_ofPlace? hsize x y rowStride

/-- The run of `160` pixels that are a row of the screen. -/
def rowAt (frame : FrameBuffer) (y : ℕ) : List UInt32 :=
  (frame.pixels.toArray.extract (y * 160) ((y + 1) * 160)).toList

lemma length_rowAt (frame : FrameBuffer) {y : ℕ} (hy : y < 144) :
    (frame.rowAt y).length = 160 := by
  rw [rowAt, Array.length_toList, Array.size_extract, Vector.size_toArray, Screen.width,
    Screen.height]
  omega

lemma getElem?_rowAt (frame : FrameBuffer) {x y : ℕ} (hy : y < 144) (hx : x < 160) :
    (frame.rowAt y)[x]? = frame.pixels.toArray[y * 160 + x]? := by
  have hsize : frame.pixels.toArray.size = 23040 := frame.pixels.size_toArray
  rw [rowAt, Array.getElem?_toList, Array.getElem?_extract, if_pos (by omega)]

/-- The row with the exact number, if the screen has one. -/
lemma row?_eq (frame : FrameBuffer) (y : UInt64) :
    frame.row? y = if y.toNat < 144 then some (frame.rowAt y.toNat) else none := by
  have hone : (1 : UInt64).toNat = 1 := rfl
  have hsize : Screen.width * Screen.height = 23040 := rfl
  by_cases hy : y.toNat < 144
  · have hindex : ∀ n ≤ 23040, (UInt64.ofNat n).toNat = n := fun n hn =>
      UInt64.toNat_ofNat_of_lt' (by rw [UInt64.size]; omega)
    have hstart := hindex (y.toNat * 160) (by omega)
    have hnext := hindex (y.toNat + 1) (by omega)
    have hstop := hindex ((y.toNat + 1) * 160) (by omega)
    have hordered : UInt64.ofNat (y.toNat * 160) ≤ UInt64.ofNat ((y.toNat + 1) * 160) := by
      rw [UInt64.le_iff_toNat_le]
      omega
    rw [row?, Index.mul?_eq_some_iff.mpr hstart.symm, Index.add?_eq_some_iff.mpr hnext.symm]
    simp only [Option.bind_eq_bind, Option.bind_some]
    rw [Index.mul?_eq_some_iff.mpr ((congrArg (· * 160) hnext).trans hstop.symm), Option.bind_some,
      if_pos ⟨hordered, by omega⟩, if_pos hy, hstart, hstop, rowAt]
  · -- where all three numbers are words, the last one is too large for the frame
    rw [if_neg hy, row?]
    simp only [Option.bind_eq_bind, Option.bind_eq_none_iff]
    intro start hstart next hnext stop hstop
    have hend := Index.mul?_eq_some_iff.mp hstop
    rw [← Index.add?_eq_some_iff.mp hnext, toNat_rowStride] at hend
    refine if_neg fun hfits => ?_
    omega

end FrameBuffer

/-- **A read is exact.**  Take any frame, any picture as it is after one has been written to it,
any column and any row.  A pixel that is read stands at its row times the width plus its column,
and there is none where that number is beyond the pixels, however large it is; a row that is read
holds the `160` pixels from its exact number on, and there is none beyond the screen. -/
theorem Screen.reads_are_exact (frame : FrameBuffer) (old : Picture) (width height : UInt64)
    (pixels : Array UInt32) (hsize : pixels.size ≤ UInt64.size) (x y : UInt64) :
    frame.pixel? x y = frame.pixels.toArray[y.toNat * 160 + x.toNat]? ∧
    (PictureSink.writePicture old width height pixels).pixel? x y =
      pixels[y.toNat * width.toNat + x.toNat]? ∧
    (y.toNat < 144 → ∃ row, frame.row? y = some row ∧ row.length = 160 ∧
      ∀ i < 160, row[i]? = frame.pixels.toArray[y.toNat * 160 + i]?) ∧
    (144 ≤ y.toNat → frame.row? y = none) := by
  refine ⟨frame.pixel?_eq x y, Picture.pixel?_eq _ hsize x y, fun hy => ?_, fun hy => ?_⟩
  · rw [frame.row?_eq, if_pos hy]
    exact ⟨_, rfl, frame.length_rowAt hy, fun i hi => frame.getElem?_rowAt hy hi⟩
  · rw [frame.row?_eq, if_neg (Nat.not_lt.mpr hy)]

/-- A row so far down that the carry of its first index would leave `0`: neither a frame nor a
picture of one pixel has anything there. -/
theorem Screen.reads_are_exact_far_down :
    let picture := PictureSink.writePicture Picture.empty 32 1 #[7]
    (#[7] : Array UInt32).size ≤ UInt64.size ∧
      (160 * (576460752303423488 : UInt64) = 0 ∧ 32 * (576460752303423488 : UInt64) = 0) ∧
      FrameBuffer.blank.pixel? 0 576460752303423488 = none ∧
      picture.pixel? 0 576460752303423488 = none ∧ picture.pixel? 0 0 = some 7 ∧
      FrameBuffer.blank.row? 576460752303423488 = none := by
  intro picture
  have hsize : (#[7] : Array UInt32).size ≤ UInt64.size := by decide
  obtain ⟨hframe, hfar, -, hrow⟩ :=
    reads_are_exact FrameBuffer.blank .empty 32 1 #[7] hsize 0 576460752303423488
  obtain ⟨-, hnear, -, -⟩ := reads_are_exact FrameBuffer.blank .empty 32 1 #[7] hsize 0 0
  refine ⟨hsize, by decide, ?_, ?_, hnear, hrow (by decide)⟩
  · rw [hframe]
    exact Array.getElem?_eq_none (by rw [Vector.size_toArray]; decide)
  · rw [hfar]
    decide

end DmgCore
