import DmgCore.Screen.Picture
import DmgCore.Video.LcdControl
import DmgCore.Video.Tile

/-!
The background: `32` by `32` tiles, picked by the map that LCDC selects.

* `Background.tileRow`: one row of the tile in a cell of the map;
* `Background.indices`: the colour indices of all `256` by `256` pixels;
* `Background.picture?`: the background as it looks under the palette in BGP.
-/

namespace DmgCore

namespace Background

variable {σ : Type} [Bus σ]

/-- Cells in a row of the map, and rows of the map. -/
abbrev cells : Nat := 32

/-- Pixels in a row of the background, and rows of the background. -/
abbrev size : Nat := cells * Tile.width

/-- Where the map holds the index of the tile in a cell. -/
def cellAddress (lcdc : LcdControl) (column row : Nat) : UInt16 :=
  UInt16.ofNat (lcdc.mapBase.toNat + cells * row + column)

/-- The colour indices of row `y` of the tile in a cell. -/
def tileRow (bus : σ) (lcdc : LcdControl) (column row : Nat) (y : UInt8) : List ColorIndex :=
  Tile.row bus (lcdc.tileAddress (Bus.read8 bus (cellAddress lcdc column row))) y

@[simp] theorem length_tileRow (bus : σ) (lcdc : LcdControl) (column row : Nat) (y : UInt8) :
    (tileRow bus lcdc column row y).length = 8 :=
  Tile.length_row ..

/-- The colour indices of the whole background, row after row. -/
def indices (bus : σ) : List ColorIndex :=
  let lcdc := LcdControl.read bus
  (List.range cells).flatMap fun row =>
    (List.range Tile.width).flatMap fun y =>
      (List.range cells).flatMap fun column => tileRow bus lcdc column row (UInt8.ofNat y)

/-- The whole background, written to a picture sink. -/
def render? {τ : Type} [PictureSink τ] (bus : σ) (sink : τ) : Option τ := do
  let pixels ← (indices bus).mapM (Palette.read bus).color?
  return PictureSink.writePicture sink (UInt64.ofNat size) (UInt64.ofNat size) pixels.toArray

/-- The whole background as a picture. -/
def picture? (bus : σ) : Option Picture := render? bus Picture.empty

end Background

end DmgCore
