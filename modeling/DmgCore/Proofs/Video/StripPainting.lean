import DmgCore.Proofs.Video.PixelDecode
import DmgCore.Video.Scanline

/-!
The strip of a line, painted tile by tile.

`Scanline.paintTiles?` paints the first tiles of a line into an array of `168` pixels
with the painter that both whole pictures and single tiles can be drawn with
(`Tile.paint?`); it has no result if one tile does not fit into the array, or if a
pixel has no colour.

* `Tile.paint?_read`: with the palette in memory, painting fails only if the tile
  does not fit;
* `Scanline.paintTiles?_eq_some`: painting all `21` tiles succeeds and gives the
  strip of the line, coloured.
-/

namespace DmgCore

variable {σ : Type} [Bus σ]

/-- Painting a row of a tile that fits, with the palette in memory. -/
lemma Tile.paint?_read (bus : σ) (addr : UInt16) (y : UInt8) (dest : Array UInt32) (offset : ℕ)
    (hfits : offset + 8 ≤ dest.size) :
    Tile.paint? bus addr y dest offset (Palette.read bus) =
      some (overwrite dest offset
        ((Tile.row bus addr y).map fun index => Palette.colorOf bus index.val)) := by
  rw [Tile.paint?, if_pos hfits, Palette.mapM_color?_read, Option.map_some]

namespace Scanline

/-- The colour indices of the tile with the given number in the strip of a line. -/
def stripTile (bus : σ) (line : UInt8) (i : ℕ) : List ColorIndex :=
  Background.tileRow bus (LcdControl.read bus)
    (((backgroundColumn bus).toNat / 8 + i) % 32) ((backgroundRow bus line).toNat / 8)
    (backgroundRow bus line % 8)

/-- The address of the tile with the given number in the strip of a line. -/
def stripTileAddress (bus : σ) (line : UInt8) (i : ℕ) : UInt16 :=
  (LcdControl.read bus).tileAddress (Bus.read8 bus (Background.cellAddress (LcdControl.read bus)
    (((backgroundColumn bus).toNat / 8 + i) % 32) ((backgroundRow bus line).toNat / 8)))

/-- Paints the first `n` tiles of a line side by side. -/
def paintTiles? (bus : σ) (line : UInt8) (n : ℕ) : Option (Array UInt32) :=
  (List.range n).foldlM
    (fun painted i => Tile.paint? bus (stripTileAddress bus line i) (backgroundRow bus line % 8)
      painted (i * 8) (Palette.read bus))
    (Array.replicate (21 * 8) 0)

/-- What a strip looks like of which the first `n` tiles are painted. -/
structure PaintedUpTo (bus : σ) (line : UInt8) (n : ℕ) (painted : Array UInt32) : Prop where
  size : painted.size = 168
  pixel : ∀ i < n * 8, painted[i]? =
    ((strip bus line)[i]?).map fun index => Palette.colorOf bus index.val

/-- A place of the strip lies in the tile whose number is the quotient by eight. -/
lemma getElem?_strip_eq_stripTile (bus : σ) (line : UInt8) {i : ℕ} (hi : i < 168) :
    (strip bus line)[i]? = (stripTile bus line (i / 8))[i % 8]? :=
  getElem?_flatMap_range (stripTile bus line) 21 (fun _ => Background.length_tileRow ..) hi

/-- Painting one more tile. -/
lemma PaintedUpTo.succ {bus : σ} {line : UInt8} {n : ℕ} {painted : Array UInt32}
    (h : PaintedUpTo bus line n painted) (hn : n < 21) :
    PaintedUpTo bus line (n + 1) (overwrite painted (n * 8)
      ((stripTile bus line n).map fun index => Palette.colorOf bus index.val)) := by
  refine ⟨by rw [size_overwrite, h.size], fun i hi => ?_⟩
  have hlength : ((stripTile bus line n).map fun index =>
      Palette.colorOf bus index.val).length = 8 := by
    rw [List.length_map, stripTile, Background.length_tileRow]
  rw [getElem?_overwrite _ _ _ _ (by rw [h.size]; omega), hlength]
  by_cases hnew : n * 8 ≤ i
  · have hdiv : i / 8 = n := by omega
    have hmod : i - n * 8 = i % 8 := by omega
    rw [if_pos (by omega), List.getElem?_map, getElem?_strip_eq_stripTile _ _ (by omega), hdiv,
      hmod]
  · rw [if_neg (by omega)]
    exact h.pixel i (by omega)

/-- Painting never fails: each of the `21` tiles fits and each pixel has a colour. -/
lemma paintTiles?_paintedUpTo (bus : σ) (line : UInt8) {n : ℕ} (hn : n ≤ 21) :
    ∃ painted, paintTiles? bus line n = some painted ∧ PaintedUpTo bus line n painted := by
  induction n with
  | zero => exact ⟨_, rfl, by simp, fun i hi => by omega⟩
  | succ n ih =>
      obtain ⟨painted, hpaint, hupTo⟩ := ih (by omega)
      have hstep := Tile.paint?_read bus (stripTileAddress bus line n)
        (backgroundRow bus line % 8) painted (n * 8) (by rw [hupTo.size]; omega)
      refine ⟨_, ?_, hupTo.succ (by omega)⟩
      rw [paintTiles?, List.range_succ, List.foldlM_append, ← paintTiles?, hpaint]
      exact (bind_pure _).trans hstep

/-- Painting all tiles of a line gives its strip, coloured. -/
lemma paintTiles?_eq_some (bus : σ) (line : UInt8) :
    paintTiles? bus line 21 =
      some ((strip bus line).map fun index => Palette.colorOf bus index.val).toArray := by
  obtain ⟨painted, hpaint, hupTo⟩ := paintTiles?_paintedUpTo bus line (Nat.le_refl 21)
  have hlist : painted.toList =
      (strip bus line).map fun index => Palette.colorOf bus index.val := by
    refine List.ext_getElem? fun i => ?_
    rw [Array.getElem?_toList, List.getElem?_map]
    by_cases hi : i < 168
    · exact hupTo.pixel i hi
    · rw [Array.getElem?_eq_none (by rw [hupTo.size]; omega),
        List.getElem?_eq_none (by rw [length_strip]; omega)]
      rfl
  rw [hpaint, ← hlist]

end Scanline

end DmgCore
