import DmgCore.Overwrite
import DmgCore.Video.Palette

/-!
Tiles of eight by eight pixels.

A row of a tile is two bytes: the first holds the low bit of each pixel's colour
index, the second the high bit, and bit 7 belongs to the leftmost pixel.

* `Tile.row`: the eight colour indices of a row;
* `Tile.paint?`: a row written as pixels over a part of an array.
-/

namespace DmgCore

namespace Tile

variable {σ : Type} [Bus σ]

/-- Pixels in a row of a tile, and rows in a tile. -/
abbrev width : Nat := 8

/-- Bytes in a tile. -/
abbrev byteCount : Nat := 16

/-- The colour index of the pixel in a column, from the low and the high byte of a row. -/
def colorIndex (lo hi : UInt8) (column : Nat) : ColorIndex :=
  ⟨(lo.toNat.testBit (7 - column)).toNat + 2 * (hi.toNat.testBit (7 - column)).toNat, by
    have hlo := Bool.toNat_le (lo.toNat.testBit (7 - column))
    have hhi := Bool.toNat_le (hi.toNat.testBit (7 - column))
    omega⟩

/-- Where a row of the tile that begins at an address begins; rows behind the tile
are those of the memory that follows. -/
def rowAddress (addr : UInt16) (row : UInt8) : UInt16 := addr + 2 * row.toUInt16

/-- The colour indices of a row, from left to right. -/
def row (bus : σ) (addr : UInt16) (row : UInt8) : List ColorIndex :=
  let lo := Bus.read8 bus (rowAddress addr row)
  let hi := Bus.read8 bus (rowAddress addr row + 1)
  (List.range width).map (colorIndex lo hi)

@[simp] theorem length_row (bus : σ) (addr : UInt16) (y : UInt8) : (row bus addr y).length = 8 := by
  simp [row, width]

/-- Writes the pixels of a row over eight places of an array. There is no result if
the places are not all in the array, or if a shade has no colour. -/
def paint? (bus : σ) (addr : UInt16) (y : UInt8) (dest : Array UInt32) (offset : Nat)
    (palette : Palette) : Option (Array UInt32) :=
  if offset + width ≤ dest.size then
    ((row bus addr y).mapM palette.color?).map (overwrite dest offset)
  else none

end Tile

end DmgCore
