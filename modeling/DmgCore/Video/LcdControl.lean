import DmgCore.Bus.Basic
import DmgCore.MemoryMap
import DmgCore.Text.BitNames

/-!
The LCD control register LCDC.

Two of its bits matter for the background: which of the two maps is shown, and
how a byte of the map names a tile. With unsigned indices tile `n` begins at
`0x8000 + 16 * n`; with signed ones it begins at `0x9000 + 16 * n`, where `n`
runs from `-128` to `127`.
-/

namespace DmgCore

/-- The value of LCDC. -/
structure LcdControl where
  bits : UInt8
  deriving DecidableEq, Repr

namespace LcdControl

variable {σ : Type} [Bus σ]

/-- The register as it stands in memory. -/
def read (bus : σ) : LcdControl := ⟨Bus.read8 bus MemoryMap.lcdControl⟩

/-- Bit 3: the second map is shown. -/
def showsMap1 (lcdc : LcdControl) : Bool := lcdc.bits.toNat.testBit 3

/-- Bit 4: tile indices are unsigned. -/
def unsignedTiles (lcdc : LcdControl) : Bool := lcdc.bits.toNat.testBit 4

/-- Where the map that is shown begins. -/
def mapBase (lcdc : LcdControl) : UInt16 :=
  if lcdc.showsMap1 then MemoryMap.map1 else MemoryMap.map0

/-- Where the tile with an index begins. -/
def tileAddress (lcdc : LcdControl) (index : UInt8) : UInt16 :=
  if lcdc.unsignedTiles then MemoryMap.tileData + 16 * index.toUInt16
  else MemoryMap.signedTileData + UInt16.ofInt (16 * index.toInt8.toInt)

/-- The names of the bits of LCDC. -/
def bitNames : BitNames where
  title := "Lcdc"
  entries :=
    [(0x01, "BG_ENABLE"), (0x02, "OBJ_ENABLE"), (0x04, "OBJ_SIZE"), (0x08, "BG_TILE_MAP"),
     (0x10, "TILE_DATA_UNSIGNED"), (0x20, "WINDOW_ENABLE"), (0x40, "WINDOW_TILE_MAP"),
     (0x80, "LCD_ENABLE")]

end LcdControl

end DmgCore
