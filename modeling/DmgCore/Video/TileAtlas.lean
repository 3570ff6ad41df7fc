import DmgCore.MemoryMap
import DmgCore.Screen.Picture
import DmgCore.Video.Tile

/-!
The tile atlas: a picture of all `384` tiles in video memory, sixteen to a row.

Tiles are counted from `0x8000` on and shown with each colour index as its own
shade, whatever LCDC and BGP hold.
-/

namespace DmgCore

namespace TileAtlas

variable {σ : Type} [Bus σ]

/-- Tiles in video memory. -/
abbrev tiles : Nat := 384

/-- Tiles in a row of the atlas. -/
abbrev columns : Nat := 16

/-- Pixels in a row of the atlas. -/
abbrev width : Nat := columns * Tile.width

/-- Rows of the atlas. -/
abbrev height : Nat := tiles / columns * Tile.width

/-- Where a tile begins. -/
def tileAddress (tile : Nat) : UInt16 :=
  UInt16.ofNat (MemoryMap.tileData.toNat + Tile.byteCount * tile)

/-- The colour indices of all tiles, row after row of the atlas. -/
def indices (bus : σ) : List ColorIndex :=
  (List.range (tiles / columns)).flatMap fun row =>
    (List.range Tile.width).flatMap fun y =>
      (List.range columns).flatMap fun column =>
        Tile.row bus (tileAddress (columns * row + column)) (UInt8.ofNat y)

/-- The atlas, written to a picture sink. -/
def render? {τ : Type} [PictureSink τ] (bus : σ) (sink : τ) : Option τ := do
  let pixels ← (indices bus).mapM Palette.identity.color?
  return PictureSink.writePicture sink (UInt64.ofNat width) (UInt64.ofNat height) pixels.toArray

/-- The atlas as a picture. -/
def picture? (bus : σ) : Option Picture := render? bus Picture.empty

end TileAtlas

end DmgCore
