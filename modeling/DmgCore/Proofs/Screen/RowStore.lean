import DmgCore.Proofs.LastPut
import DmgCore.Proofs.Screen.FrameRows

/-!
A frame after any list of row writes.

A write may name any row. One that the screen has is replaced, and for one outside a warning is
sent and nothing else happens.

* `RowWrite`: a row number with pixels; `FrameBuffer.writeAll`: writes made one after the other;
* `FrameBuffer.rowAt_writeRow`: what one write leaves in a row, and
  `FrameBuffer.lastPut_rowAt`: so a row holds what was written to it last;
* `FrameBuffer.records_writeAll`: the warnings that were sent;
* `FrameBuffer.pixel?_eq_getElem?_rowAt`: a pixel is found in the row that its index lies in;
* `FrameBuffer.writeAll_holds_last`: the statements together.
-/

namespace DmgCore

/-- A write of pixels to the row with some number. -/
structure RowWrite where
  y : UInt64
  row : Row

namespace RowWrite

/-- The pixels that a write leaves in row `y`, if it goes there. -/
def pixelsFor? (y : UInt64) (write : RowWrite) : Option (List UInt32) :=
  if y = write.y then some write.row.toList else none

/-- The screen has no row with this number. -/
def IsOutside (write : RowWrite) : Prop := 144 ≤ write.y.toNat

instance : DecidablePred IsOutside := fun write => inferInstanceAs (Decidable (144 ≤ write.y.toNat))

/-- What is sent when a write is dropped. -/
def warning (write : RowWrite) : LogRecord :=
  ⟨.warn, s!"FrameBuffer: dropping row {write.y.toNat} outside the visible frame"⟩

end RowWrite

namespace FrameBuffer

/-- The frame after writes made in order, with the records sent on the way. -/
def writeAll (frame : FrameBuffer) (writes : List RowWrite) : Logged FrameBuffer :=
  writes.foldlM (fun frame write => frame.writeRow write.y write.row) frame

/-! ### One write -/

/-- A write outside the screen changes nothing and sends one warning. -/
lemma writeRow_of_isOutside (frame : FrameBuffer) {write : RowWrite} (h : write.IsOutside) :
    frame.writeRow write.y write.row = ⟨frame, [write.warning]⟩ :=
  if_neg (Nat.not_lt.mpr h)

/-- A write to a row of the screen replaces it and sends nothing. -/
lemma writeRow_of_not_isOutside (frame : FrameBuffer) {write : RowWrite}
    (h : ¬ write.IsOutside) :
    frame.writeRow write.y write.row = pure (frame.setRow write.y.toNat write.row) :=
  frame.writeRow_of_lt write.row (Nat.not_le.mp h)

/-- A row of the screen holds what one write leaves there, or else what it held before. -/
lemma rowAt_writeRow (frame : FrameBuffer) (write : RowWrite) {y : UInt64} (hy : y.toNat < 144) :
    (frame.writeRow write.y write.row).value.rowAt y.toNat =
      (write.pixelsFor? y).getD (frame.rowAt y.toNat) := by
  rw [RowWrite.pixelsFor?]
  by_cases hsame : y = write.y
  · have hinside : ¬ write.IsOutside := by rwa [RowWrite.IsOutside, ← hsame, Nat.not_le]
    rw [writeRow_of_not_isOutside frame hinside, Logged.value_pure, rowAt_setRow _ _ hy,
      if_pos (congrArg UInt64.toNat hsame), if_pos hsame, Option.getD_some]
  · have hother : y.toNat ≠ write.y.toNat := fun heq => hsame (UInt64.toNat_inj.mp heq)
    rw [if_neg hsame, Option.getD_none]
    by_cases hout : write.IsOutside
    · rw [writeRow_of_isOutside frame hout]
    · rw [writeRow_of_not_isOutside frame hout, Logged.value_pure, rowAt_setRow _ _ hy,
        if_neg hother]

/-! ### Any number of writes -/

/-- The frame that writes leave, without the records. -/
lemma value_writeAll (frame : FrameBuffer) (writes : List RowWrite) :
    (frame.writeAll writes).value =
      writes.foldl (fun frame write => (frame.writeRow write.y write.row).value) frame := by
  induction writes generalizing frame with
  | nil => rfl
  | cons write writes ih =>
      rw [writeAll, List.foldlM_cons, Logged.value_bind, ← writeAll, ih, List.foldl_cons]

/-- One warning is sent for each write outside the screen, and nothing besides. -/
lemma records_writeAll (frame : FrameBuffer) (writes : List RowWrite) :
    (frame.writeAll writes).records =
      (writes.filter (·.IsOutside)).map RowWrite.warning := by
  induction writes generalizing frame with
  | nil => rfl
  | cons write writes ih =>
      rw [writeAll, List.foldlM_cons, Logged.records_bind, ← writeAll, ih, List.filter_cons]
      by_cases hout : write.IsOutside
      · rw [writeRow_of_isOutside frame hout, if_pos (decide_eq_true hout), List.map_cons,
          List.singleton_append]
      · have hkept : ¬ decide write.IsOutside = true := by rwa [decide_eq_true_iff]
        rw [writeRow_of_not_isOutside frame hout, if_neg hkept, Logged.records_pure,
          List.nil_append]

/-- A row of the screen holds what was written to it last. -/
lemma lastPut_rowAt (frame : FrameBuffer) (writes : List RowWrite) {y : UInt64}
    (hy : y.toNat < 144) :
    LastPut (RowWrite.pixelsFor? y) writes (frame.rowAt y.toNat)
      ((frame.writeAll writes).value.rowAt y.toNat) := by
  rw [value_writeAll]
  exact lastPut_foldl (fun frame : FrameBuffer => frame.rowAt y.toNat)
    (fun frame write => rowAt_writeRow frame write hy) writes frame

/-! ### Pixels -/

/-- A pixel of the frame is found in the row that its index lies in. -/
lemma pixel?_eq_getElem?_rowAt (frame : FrameBuffer) {x y : UInt64} {n : ℕ} (hn : n < 23040)
    (hindex : 160 * y.toNat + x.toNat = n) :
    frame.pixel? x y = (frame.rowAt (n / 160))[n % 160]? := by
  have hexact : y.toNat * 160 + x.toNat = n := by omega
  rw [pixel?_eq, hexact, getElem?_rowAt _ (by omega) (by omega), Nat.div_add_mod']

/-- **A frame is a store of rows.**  Let rows be written to a frame without power, any number of
them with any row numbers.  The frame keeps its `160 * 144` pixels.  Each row of the screen holds
the pixels of the last write with its number, or is blank if there was none.  Whatever is written
next, a row outside the screen leaves the frame as it is and sends one warning, and any other
sends nothing; so the records sent are the warnings for the rows outside, in order.  A pixel is
read in the row that its index lies in, at the place that is left. -/
theorem writeAll_holds_last (writes : List RowWrite) :
    let written := blank.writeAll writes
    written.value.pixels.toList.length = 160 * 144 ∧
    (∀ y : UInt64, y.toNat < 144 → ∃ pixels, written.value.row? y = some pixels ∧
      LastPut (RowWrite.pixelsFor? y) writes Row.blank.toList pixels) ∧
    (∀ next : RowWrite,
      (next.IsOutside →
        written.value.writeRow next.y next.row = ⟨written.value, [next.warning]⟩) ∧
      (¬ next.IsOutside → (written.value.writeRow next.y next.row).records = [])) ∧
    written.records = (writes.filter (·.IsOutside)).map RowWrite.warning ∧
    ∀ (x y : UInt64) (n : ℕ), n < 160 * 144 → 160 * y.toNat + x.toNat = n → ∃ row pixel,
      written.value.row? (UInt64.ofNat (n / 160)) = some row ∧ row[n % 160]? = some pixel ∧
        written.value.pixel? x y = some pixel := by
  intro written
  refine ⟨Vector.length_toList, fun y hy => ⟨written.value.rowAt y.toNat, ?_, ?_⟩,
    fun next => ⟨fun hout => ?_, fun hin => ?_⟩, records_writeAll blank writes,
    fun x y n hn hindex => ?_⟩
  · rw [← row?_eq_rowAt written.value hy, UInt64.ofNat_toNat]
  · rw [← rowAt_blank hy]
    exact lastPut_rowAt blank writes hy
  · exact writeRow_of_isOutside written.value hout
  · rw [writeRow_of_not_isOutside written.value hin, Logged.records_pure]
  · have hrow : n / 160 < 144 := by omega
    have hplace : n % 160 < (written.value.rowAt (n / 160)).length := by
      rw [length_rowAt _ hrow]
      omega
    refine ⟨_, _, row?_eq_rowAt _ hrow, List.getElem?_eq_getElem hplace, ?_⟩
    rw [pixel?_eq_getElem?_rowAt _ hn hindex, List.getElem?_eq_getElem hplace]

/-- A row written twice, between writes to two rows that the screen does not have, and what a
write outside the screen and one inside would do then. The last pixel of the row is found also
where it is asked for as a pixel of the first row. -/
theorem writeAll_holds_last_twice :
    let writes : List RowWrite :=
      [⟨10, Row.fill 1⟩, ⟨144, Row.fill 2⟩, ⟨10, Row.fill 3⟩, ⟨18446744073709551615, Row.fill 4⟩]
    let written := blank.writeAll writes
    written.value.row? 10 = some (Row.fill 3).toList ∧
      written.value.writeRow 200 (Row.fill 5) =
        ⟨written.value, [RowWrite.warning ⟨200, Row.fill 5⟩]⟩ ∧
      (written.value.writeRow 143 (Row.fill 5)).records = [] ∧
      written.records =
        [RowWrite.warning ⟨144, Row.fill 2⟩, RowWrite.warning ⟨18446744073709551615, Row.fill 4⟩] ∧
      written.value.pixel? 1759 0 = some 3 := by
  intro writes written
  obtain ⟨-, hrows, hnext, hrecords, hpixels⟩ := writeAll_holds_last writes
  obtain ⟨pixels, hread, hlast⟩ := hrows 10 (by decide)
  have hput : pixels = (Row.fill 3).toList :=
    hlast.put [⟨10, Row.fill 1⟩, ⟨144, Row.fill 2⟩] ⟨10, Row.fill 3⟩
      [⟨18446744073709551615, Row.fill 4⟩] _ rfl (if_pos rfl)
      (List.forall_mem_singleton.mpr (if_neg (by decide)))
  rw [hput] at hread
  refine ⟨hread, (hnext ⟨200, Row.fill 5⟩).1 (by decide), (hnext ⟨143, Row.fill 5⟩).2 (by decide),
    hrecords, ?_⟩
  obtain ⟨row, pixel, hrow, hplace, hpixel⟩ := hpixels 1759 0 1759 (by decide) rfl
  obtain rfl : (Row.fill 3).toList = row := Option.some.inj (hread.symm.trans hrow)
  rw [hpixel, ← hplace]
  decide

end FrameBuffer

end DmgCore
