import DmgCore.Proofs.Screen.ExactReads
import DmgCore.Proofs.Video.ScanlinePixels

/-!
The picture of the whole background, and the screen as a window on it.

* `Picture.pixel?_ofNat`, `Picture.pixel?_map`: the pixel of a picture in a column and a
  row, as long as its number is an index;
* `Background.exists_picture`: the picture exists, and each of its pixels is the one
  that the decode of a single pixel gives;
* `Renderer.drawScanline_eq_window`: a line of the screen is a line of this picture from
  the scroll registers on, coming in again at the left and at the top.

The picture runs through all tiles row by row and a line of the screen cuts a strip of
`21` tiles, so they have no loop in common; both are compared with the decode of a single
pixel.
-/

namespace DmgCore

variable {σ : Type} [Bus σ]

/-- The pixel in a column and a row, if its number fits into a word. -/
lemma Picture.pixel?_ofNat (picture : Picture) {x y : ℕ}
    (hfits : y * picture.width.toNat + x < UInt64.size) :
    picture.pixel? (UInt64.ofNat x) (UInt64.ofNat y) =
      picture.pixels[y * picture.width.toNat + x]? := by
  have hx : (UInt64.ofNat x).toNat = x := UInt64.toNat_ofNat_of_lt' (by omega)
  have hfirst : (UInt64.ofNat y).toNat * picture.width.toNat = y * picture.width.toNat := by
    rcases Nat.eq_zero_or_pos picture.width.toNat with hzero | hpos
    · rw [hzero, Nat.mul_zero, Nat.mul_zero]
    · have hy := Nat.le_mul_of_pos_right y hpos
      rw [UInt64.toNat_ofNat_of_lt' (by omega)]
  have hplace := UInt64.toNat_ofNat_of_lt' hfits
  have hindex : Index.ofPlace? (UInt64.ofNat x) (UInt64.ofNat y) picture.width =
      some (UInt64.ofNat (y * picture.width.toNat + x)) :=
    Index.ofPlace?_eq_some_iff.mpr (by rw [hfirst, hx, hplace])
  rw [pixel?, hindex, Option.bind_eq_bind, Option.bind_some, hplace]

/-- A picture made by colouring a list shows the colours of its entries. -/
lemma Picture.pixel?_map {α : Type} {entries : List α} (color : α → UInt32)
    {width height : UInt64} {x y : ℕ} {entry : α} (hfits : y * width.toNat + x < UInt64.size)
    (hentry : entries[y * width.toNat + x]? = some entry) :
    (Picture.mk width height (entries.map color).toArray).pixel? (UInt64.ofNat x)
      (UInt64.ofNat y) = some (color entry) := by
  rw [pixel?_ofNat _ hfits, List.getElem?_toArray, List.getElem?_map, hentry, Option.map_some]

namespace Background

lemma length_indices (bus : σ) : (indices bus).length = 65536 :=
  length_flatMap_range _ 32 fun _ => length_flatMap_range _ 8 fun _ =>
    length_flatMap_range _ 32 fun _ => length_tileRow ..

/-- The colour index in a column and a row of the whole background. -/
lemma getElem?_indices (bus : σ) {x y : ℕ} (hx : x < 256) (hy : y < 256) :
    ((indices bus)[y * 256 + x]?).map Fin.val = some (rawAt bus x y) := by
  have hline : (UInt8.ofNat (y % 8)).toNat = y % 8 := by
    rw [UInt8.toNat_ofNat']
    omega
  have hcell := getElem?_flatMap_tiles
    (fun row line column => tileRow bus (LcdControl.read bus) column row (UInt8.ofNat line))
    32 32 (fun _ _ _ => length_tileRow ..) hx hy
  rw [← getElem?_tileRow bus hline]
  exact congrArg (Option.map Fin.val) hcell

/-- The whole background has a picture, since every shade has a colour. -/
lemma picture?_eq_some (bus : σ) :
    picture? bus = some ⟨256, 256,
      ((indices bus).map fun index => Palette.colorOf bus index.val).toArray⟩ := by
  rw [picture?, render?, Palette.mapM_color?_read]
  rfl

/-- The picture of the whole background shows in each place the background pixel there. -/
lemma exists_picture (bus : σ) :
    ∃ picture, picture? bus = some picture ∧ ∀ x y, x < 256 → y < 256 →
      picture.pixel? (UInt64.ofNat x) (UInt64.ofNat y) = some (pixelAt bus x y) := by
  refine ⟨_, picture?_eq_some bus, fun x y hx hy => ?_⟩
  have hfits : y * 256 + x < UInt64.size := by
    rw [UInt64.size]
    omega
  obtain ⟨index, hindex, hraw⟩ := Option.map_eq_some_iff.mp (getElem?_indices bus hx hy)
  rw [Picture.pixel?_map _ hfits hindex, hraw]
  rfl

end Background

namespace Renderer

variable {τ : Type} [RowSink τ]

/-- With both switches on and a sink bound, a line of the screen is handed over as the row
of its single pixels. -/
lemma drawScanline_of_on {renderer : Renderer τ} {sink : τ} (bus : σ) {line : UInt8}
    (henabled : renderer.enabled = true) (hpowered : renderer.powered = true)
    (hsink : renderer.output = some sink) (hline : line.toNat < 144) :
    renderer.drawScanline bus line =
      .ok (RowSink.writeRow sink line.toUInt64 (Scanline.pixels bus line) >>= fun written =>
        pure { renderer with output := some written, rowBuffer := Scanline.pixels bus line }) := by
  have hscreen : ¬ Screen.height ≤ line.toNat := Nat.not_le.mpr hline
  rw [drawScanline, if_neg (by simp [henabled, hpowered]), if_neg hscreen, hsink,
    Scanline.row?_eq_pixels]
  rfl

/-- **The screen is a window on the background.**  A renderer that is switched on and bound
to a sink draws, as line `line` of the screen, one row; and the picture of the whole
background of the same memory exists.  The pixel in column `x` of the row is the pixel of
that picture found by adding the scroll registers to the coordinates, where each sum comes
in again at the other side. -/
theorem drawScanline_eq_window (renderer : Renderer τ) (sink : τ) (bus : σ) (line : UInt8)
    (henabled : renderer.enabled = true) (hpowered : renderer.powered = true)
    (hsink : renderer.output = some sink) (hline : line.toNat < 144) :
    ∃ (row : Row) (picture : Picture),
      renderer.drawScanline bus line =
        .ok (RowSink.writeRow sink line.toUInt64 row >>= fun written =>
          pure { renderer with output := some written, rowBuffer := row }) ∧
      Background.picture? bus = some picture ∧
      ∀ x (hx : x < 160),
        picture.pixel? (UInt64.ofNat ((x + (Bus.read8 bus MemoryMap.scrollX).toNat) % 256))
          (UInt64.ofNat ((line.toNat + (Bus.read8 bus MemoryMap.scrollY).toNat) % 256)) =
            some row[x] := by
  obtain ⟨picture, hpicture, hpixel⟩ := Background.exists_picture bus
  refine ⟨_, picture, drawScanline_of_on bus henabled hpowered hsink hline, hpicture,
    fun x hx => ?_⟩
  rw [hpixel _ _ (Nat.mod_lt _ (by decide)) (Nat.mod_lt _ (by decide)), Nat.add_comm x,
    Scanline.pixels, Vector.getElem_ofFn]
  rfl

/-- Line `20` with both coordinates scrolled beyond the background: the place in column
`100` shows what the picture has in column `44` and row `14`. -/
theorem drawScanline_eq_window_scrolled :
    let renderer : Renderer FrameBuffer := ⟨true, true, some .blank, Row.fill 7⟩
    let bus := Bus.write8 (Bus.write8 FlatMemory.zero MemoryMap.scrollX 200) MemoryMap.scrollY 250
    renderer.enabled = true ∧ renderer.powered = true ∧ renderer.output = some .blank ∧
      (20 : UInt8).toNat < 144 ∧
      ∃ (row : Row) (picture : Picture),
        renderer.drawScanline bus 20 =
          .ok (RowSink.writeRow FrameBuffer.blank 20 row >>= fun written =>
            pure { renderer with output := some written, rowBuffer := row }) ∧
        Background.picture? bus = some picture ∧ picture.pixel? 44 14 = some row[100] := by
  intro renderer bus
  have hscrollX : Bus.read8 bus MemoryMap.scrollX = 200 := by
    rw [FlatMemory.read8_write8_of_ne _ (by decide), FlatMemory.read8_write8_self]
  have hscrollY : Bus.read8 bus MemoryMap.scrollY = 250 := FlatMemory.read8_write8_self ..
  obtain ⟨row, picture, hdraw, hpicture, hpixel⟩ :=
    drawScanline_eq_window renderer .blank bus 20 rfl rfl rfl (by decide)
  have hplace := hpixel 100 (by decide)
  rw [hscrollX, hscrollY] at hplace
  exact ⟨rfl, rfl, rfl, by decide, row, picture, hdraw, hpicture, hplace⟩

end Renderer

end DmgCore
