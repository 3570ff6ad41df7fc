import DmgCore.FlatMemory
import DmgCore.Proofs.Video.StripPainting
import DmgCore.Screen.FrameBuffer
import DmgCore.Video.Renderer

/-!
A line of the screen, pixel by pixel.

A line is drawn from a strip of `21` whole tiles that is cut at the fine scroll,
while the definition of a single pixel wraps each coordinate at `256` on its own.

* `Scanline.getElem?_strip`: a place of the strip holds the background pixel that
  many columns to the right of the first tile, with wrap-around;
* `Scanline.row?_eq_pixels`: cutting the strip at the fine scroll gives the row of
  single pixels, and all of them have colours;
* `Renderer.drawScanline_eq_writeRow_pixels`: a renderer that is switched on writes
  exactly this row, once.
-/

namespace DmgCore

variable {σ : Type} [Bus σ]

namespace Scanline

/-- The pixel in column `x` of a line of the screen: the background pixel found by
adding the scroll registers to the coordinates, each wrapped at `256`. -/
def pixelAt (bus : σ) (line : UInt8) (x : ℕ) : UInt32 :=
  Background.pixelAt bus (((Bus.read8 bus MemoryMap.scrollX).toNat + x) % 256)
    ((line.toNat + (Bus.read8 bus MemoryMap.scrollY).toNat) % 256)

/-- The whole row of single pixels. -/
def pixels (bus : σ) (line : UInt8) : Row := Vector.ofFn fun x => pixelAt bus line x

/-- The pixel in a column of the row. -/
lemma getElem?_pixels (bus : σ) (line : UInt8) {x : ℕ} (hx : x < 160) :
    (pixels bus line).toList[x]? = some (pixelAt bus line x) := by
  rw [Vector.getElem?_toList, Vector.getElem?_eq_getElem hx, pixels, Vector.getElem_ofFn]

lemma toNat_backgroundRow (bus : σ) (line : UInt8) :
    (backgroundRow bus line).toNat =
      (line.toNat + (Bus.read8 bus MemoryMap.scrollY).toNat) % 256 := by
  rw [backgroundRow, UInt8.toNat_add]

/-- A place of the strip holds the background pixel that many columns to the right of
the first pixel of the leftmost tile. -/
lemma getElem?_strip (bus : σ) (line : UInt8) {i : ℕ} (hi : i < 168) :
    ((strip bus line)[i]?).map Fin.val =
      some (Background.rawAt bus (((backgroundColumn bus).toNat / 8 * 8 + i) % 256)
        (backgroundRow bus line).toNat) := by
  set first := (backgroundColumn bus).toNat / 8 with hfirst
  set x := (first * 8 + i) % 256 with hx
  -- the column of the tile and the column in the tile, before and after wrapping
  have hcolumn : (first + i / 8) % 32 = x / 8 := by omega
  have hplace : i % 8 = x % 8 := by omega
  have hrow : (backgroundRow bus line % 8).toNat = (backgroundRow bus line).toNat % 8 := by
    rw [UInt8.toNat_mod]
    rfl
  have htiles : tiles = 21 := rfl
  rw [strip, getElem?_flatMap_range _ _ (fun _ => Background.length_tileRow ..) (by omega),
    hcolumn, hplace]
  exact Background.getElem?_tileRow bus hrow

/-- The window that the fine scroll cuts out of the strip. -/
lemma val_getElem_indices (bus : σ) (line : UInt8) (x : ℕ) (hx : x < Screen.width) :
    (indices bus line)[x].val =
      Background.rawAt bus (((Bus.read8 bus MemoryMap.scrollX).toNat + x) % 256)
        ((line.toNat + (Bus.read8 bus MemoryMap.scrollY).toNat) % 256) := by
  set fine := (backgroundColumn bus).toNat % 8 with hfine
  have hwidth : Screen.width = 160 := rfl
  have hplace : (strip bus line)[fine + x]? = some (indices bus line)[x] := by
    rw [List.getElem?_eq_getElem (by rw [length_strip]; omega)]
    simp [indices, hfine]
  have hstrip := getElem?_strip bus line (i := fine + x) (by omega)
  rw [hplace, Option.map_some, Option.some_inj] at hstrip
  -- the first tile begins `fine` columns to the left of the window
  have hwindow : (backgroundColumn bus).toNat / 8 * 8 + (fine + x) =
      (Bus.read8 bus MemoryMap.scrollX).toNat + x := by
    rw [hfine, backgroundColumn]
    omega
  rw [hstrip, hwindow, toNat_backgroundRow]

/-- The row of single pixels is the window of the strip, coloured. -/
lemma map_indices_eq_pixels (bus : σ) (line : UInt8) :
    ((indices bus line).map fun index => Palette.colorOf bus index.val) = pixels bus line := by
  refine Vector.ext fun x hx => ?_
  rw [Vector.getElem_map, pixels, Vector.getElem_ofFn, pixelAt, Background.pixelAt,
    val_getElem_indices]
  rfl

/-- Cutting the strip gives the row of single pixels, and every pixel has a colour. -/
lemma row?_eq_pixels (bus : σ) (line : UInt8) : row? bus line = some (pixels bus line) := by
  rw [row?, Palette.color?_read, ← map_indices_eq_pixels]
  exact Vector.mapM_pure fun index : ColorIndex => Palette.colorOf bus index.val

/-- The window of the painted strip is the row of single pixels. -/
lemma extract_strip_eq_pixels (bus : σ) (line : UInt8) :
    (((strip bus line).map fun index => Palette.colorOf bus index.val).toArray.extract
        ((backgroundColumn bus).toNat % 8) ((backgroundColumn bus).toNat % 8 + 160)) =
      (pixels bus line).toArray := by
  rw [← map_indices_eq_pixels, Vector.toArray_map, indices, List.extract_toArray, List.map_toArray,
    List.extract_eq_take_drop, List.map_take, List.map_drop, Nat.add_sub_cancel_left]

end Scanline

namespace Renderer

variable {τ : Type} [RowSink τ]

/-- **A line is drawn as the row of its single pixels.**  A renderer with both switches
on and a sink bound succeeds and hands the sink one row, under the number of the line;
its switches stay.  The pixel in column `x` is the background pixel at the scrolled
coordinates, and never has the colour of a panel without power.  Painting the line tile
by tile succeeds, and the row is a window inside the painted strip. -/
theorem drawScanline_eq_writeRow_pixels (renderer : Renderer τ) (sink : τ) (bus : σ)
    (line : UInt8) (henabled : renderer.enabled = true) (hpowered : renderer.powered = true)
    (hsink : renderer.output = some sink) (hline : line.toNat < 144) :
    ∃ row : Row,
      renderer.drawScanline bus line =
        .ok (RowSink.writeRow sink line.toUInt64 row >>= fun written =>
          pure { renderer with output := some written, rowBuffer := row }) ∧
      (∀ x (hx : x < 160),
        row[x] = Background.pixelAt bus (((Bus.read8 bus MemoryMap.scrollX).toNat + x) % 256)
          ((line.toNat + (Bus.read8 bus MemoryMap.scrollY).toNat) % 256)) ∧
      (∀ x (hx : x < 160), row[x] ≠ blankPixel) ∧
      ∃ painted fine, Scanline.paintTiles? bus line 21 = some painted ∧
        fine = (Bus.read8 bus MemoryMap.scrollX).toNat % 8 ∧ fine + 160 ≤ painted.size ∧
        painted.extract fine (fine + 160) = row.toArray := by
  have hscreen : ¬ Screen.height ≤ line.toNat := Nat.not_le.mpr hline
  refine ⟨Scanline.pixels bus line, ?_, fun x hx => ?_, fun x hx => ?_,
    _, _, Scanline.paintTiles?_eq_some bus line, rfl, ?_, ?_⟩
  · rw [drawScanline, if_neg (by simp [henabled, hpowered]), if_neg hscreen, hsink,
      Scanline.row?_eq_pixels]
    rfl
  · rw [Scanline.pixels, Vector.getElem_ofFn]
    rfl
  · rw [Scanline.pixels, Vector.getElem_ofFn]
    exact Palette.colorOf_ne_blankPixel bus _
  · rw [List.size_toArray, List.length_map, Scanline.length_strip]
    omega
  · exact Scanline.extract_strip_eq_pixels bus line

/-- The last line of the screen on a background scrolled so far that both coordinates
leave it: the window comes in again at the left and at the top. -/
theorem drawScanline_eq_writeRow_pixels_wrapped :
    let renderer : Renderer FrameBuffer := ⟨true, true, some .blank, Row.fill 7⟩
    let bus := Bus.write8 (Bus.write8 FlatMemory.zero MemoryMap.scrollX 253) MemoryMap.scrollY 200
    renderer.enabled = true ∧ renderer.powered = true ∧ renderer.output = some .blank ∧
      (143 : UInt8).toNat < 144 ∧
      ∃ row : Row, renderer.drawScanline bus 143 =
          .ok (RowSink.writeRow FrameBuffer.blank 143 row >>= fun written =>
            pure { renderer with output := some written, rowBuffer := row }) ∧
        row[0] = Background.pixelAt bus 253 87 ∧ row[159] = Background.pixelAt bus 156 87 := by
  intro renderer bus
  have hscrollX : Bus.read8 bus MemoryMap.scrollX = 253 := by
    rw [FlatMemory.read8_write8_of_ne _ (by decide), FlatMemory.read8_write8_self]
  have hscrollY : Bus.read8 bus MemoryMap.scrollY = 200 := FlatMemory.read8_write8_self ..
  obtain ⟨row, hdraw, hpixel, -, -⟩ :=
    drawScanline_eq_writeRow_pixels renderer .blank bus 143 rfl rfl rfl (by decide)
  have hfirst := hpixel 0 (by decide)
  have hlast := hpixel 159 (by decide)
  rw [hscrollX, hscrollY] at hfirst hlast
  exact ⟨rfl, rfl, rfl, by decide, row, hdraw, hfirst, hlast⟩

end Renderer

end DmgCore
