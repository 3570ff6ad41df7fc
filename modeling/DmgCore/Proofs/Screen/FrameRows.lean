import DmgCore.Proofs.Screen.ExactReads

/-!
A frame as `144` rows that are written independently.

* `FrameBuffer.row?_eq_rowAt`: a row that is read is a run of `160` pixels;
* `FrameBuffer.row?_setRow`: a row holds what was last written to it, and a write
  changes no other row;
* `FrameBuffer.row?_blank`: all rows of a frame without power are blank;
* `FrameBuffer.writeRows_eq_pure`, `FrameBuffer.row?_setRows`: the same row written to
  several places, one after the other.
-/

namespace DmgCore

namespace FrameBuffer

variable {y z : ℕ}

/-- The pixel in a column and a row of the screen. -/
lemma pixel?_ofNat (frame : FrameBuffer) {x : ℕ} (hx : x < 160) (hy : y < 144) :
    frame.pixel? (UInt64.ofNat x) (UInt64.ofNat y) = frame.pixels.toArray[y * 160 + x]? := by
  rw [pixel?_eq, UInt64.toNat_ofNat_of_lt' (by rw [UInt64.size]; omega),
    UInt64.toNat_ofNat_of_lt' (by rw [UInt64.size]; omega)]

/-- Reading a row of the screen gives its run of pixels. -/
lemma row?_eq_rowAt (frame : FrameBuffer) (hy : y < 144) :
    frame.row? (UInt64.ofNat y) = some (frame.rowAt y) := by
  rw [row?_eq, UInt64.toNat_ofNat_of_lt' (by rw [UInt64.size]; omega), if_pos hy]

/-- A pixel of the frame after a write: from the new row, or as it was. -/
lemma getElem?_setRow (frame : FrameBuffer) (row : Row) (hy : y < 144) {x : ℕ} (hx : x < 160) :
    (frame.setRow z row).pixels.toArray[y * 160 + x]? =
      if y = z then row.toList[x]? else frame.pixels.toArray[y * 160 + x]? := by
  have hsize : frame.pixels.toArray.size = 23040 := frame.pixels.size_toArray
  have hlength : row.toList.length = 160 := row.length_toList
  have hstart : z * Screen.width = z * 160 := rfl
  rw [setRow, getElem?_overwrite _ _ _ _ (by omega), hlength, hstart]
  by_cases hsame : y = z
  · have hplace : y * 160 + x - z * 160 = x := by omega
    rw [if_pos (by omega), if_pos hsame, hplace]
  · rw [if_neg (by omega), if_neg hsame]

/-- The run of pixels that are a row of the screen, after a write: the new row, or as it was. -/
lemma rowAt_setRow (frame : FrameBuffer) (row : Row) (hy : y < 144) :
    (frame.setRow z row).rowAt y = if y = z then row.toList else frame.rowAt y := by
  have hlength : row.toList.length = 160 := row.length_toList
  refine List.ext_getElem? fun x => ?_
  by_cases hx : x < 160
  · rw [getElem?_rowAt _ hy hx, getElem?_setRow frame row hy hx]
    by_cases hsame : y = z
    · rw [if_pos hsame, if_pos hsame]
    · rw [if_neg hsame, if_neg hsame, getElem?_rowAt _ hy hx]
  · have hshort : (if y = z then row.toList else frame.rowAt y).length = 160 := by
      by_cases hsame : y = z
      · rw [if_pos hsame, hlength]
      · rw [if_neg hsame, length_rowAt _ hy]
    rw [List.getElem?_eq_none (by rw [length_rowAt _ hy]; omega),
      List.getElem?_eq_none (by rw [hshort]; omega)]

/-- A row holds what was last written to it, and a write changes no other row. -/
lemma row?_setRow (frame : FrameBuffer) (row : Row) (hy : y < 144) :
    (frame.setRow z row).row? (UInt64.ofNat y) =
      if y = z then some row.toList else frame.row? (UInt64.ofNat y) := by
  rw [row?_eq_rowAt _ hy, row?_eq_rowAt _ hy, rowAt_setRow frame row hy, apply_ite some]

/-- In a frame without power every run of pixels that are a row is blank. -/
lemma rowAt_blank (hy : y < 144) : blank.rowAt y = Row.blank.toList := by
  have hwidth : min ((y + 1) * 160) (Screen.width * Screen.height) - y * 160 = 160 := by
    rw [Screen.width, Screen.height]
    omega
  rw [rowAt, blank, Vector.toArray_replicate, Array.extract_replicate, hwidth]
  rfl

/-- All rows of a frame without power are blank. -/
lemma row?_blank (hy : y < 144) : blank.row? (UInt64.ofNat y) = some Row.blank.toList := by
  rw [row?_eq_rowAt _ hy, rowAt_blank hy]

/-- A row of the screen is replaced without a warning. -/
lemma writeRow_of_lt (frame : FrameBuffer) {y : UInt64} (row : Row) (hy : y.toNat < 144) :
    frame.writeRow y row = pure (frame.setRow y.toNat row) := if_pos hy

/-! ### The same row in several places -/

/-- The frame with the same row written to several places, one after the other. -/
def setRows (frame : FrameBuffer) (row : Row) (places : List ℕ) : FrameBuffer :=
  places.foldl (fun frame y => frame.setRow y row) frame

/-- Writing a row to places of the screen drops none of them. -/
lemma writeRows_eq_pure (frame : FrameBuffer) (row : Row) {places : List ℕ}
    (hplaces : ∀ y ∈ places, y < 144) :
    places.foldlM (fun frame y => writeRow frame (UInt64.ofNat y) row) frame =
      pure (frame.setRows row places) := by
  induction places generalizing frame with
  | nil => rfl
  | cons y places ih =>
      obtain ⟨hy, hrest⟩ := List.forall_mem_cons.mp hplaces
      have hword : (UInt64.ofNat y).toNat = y := by
        rw [UInt64.toNat_ofNat']
        omega
      have hwrite : writeRow frame (UInt64.ofNat y) row = pure (frame.setRow y row) := by
        rw [writeRow_of_lt frame row (by rwa [hword]), hword]
      rw [List.foldlM_cons, hwrite]
      exact ih (frame.setRow y row) hrest

/-- The places written to hold the row, and the others what they held. -/
lemma row?_setRows (frame : FrameBuffer) (row : Row) {places : List ℕ}
    (hy : y < 144) :
    (frame.setRows row places).row? (UInt64.ofNat y) =
      if y ∈ places then some row.toList else frame.row? (UInt64.ofNat y) := by
  induction places generalizing frame with
  | nil => simp [setRows]
  | cons z places ih =>
      have hnext := ih (frame.setRow z row)
      rw [row?_setRow frame row hy] at hnext
      rw [setRows, List.foldl_cons, ← setRows, hnext]
      by_cases hmem : y ∈ places
      · rw [if_pos hmem, if_pos (List.mem_cons_of_mem z hmem)]
      · simp [hmem]

end FrameBuffer

end DmgCore
