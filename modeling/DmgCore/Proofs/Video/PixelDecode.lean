import Mathlib.Data.Int.Notation
import DmgCore.Proofs.Grid
import DmgCore.Video.Background

/-!
The background, one pixel at a time.

* `Background.rawAt`: the colour index of the background pixel in a column and a
  row, from the bytes of memory: the map cell, the tile it names, the two bytes of
  the tile's row, and one bit of each;
* `Background.pixelAt`: that pixel under the palette in BGP;
* `Background.getElem?_tileRow`: decoding a row of a tile at once gives the same
  eight indices, and `Palette.mapM_color?_read` the same colours.

The definitions here know neither tiles of eight pixels decoded together nor the
order in which pixels are drawn.  They are what the drawing of lines and of whole
pictures is compared with.
-/

namespace DmgCore

variable {σ : Type} [Bus σ]

/-! ### The decode of a single pixel -/

/-- A byte read as a number from `-128` to `127`. -/
def signed8 (byte : UInt8) : ℤ :=
  if byte.toNat < 128 then (byte.toNat : ℤ) else (byte.toNat : ℤ) - 256

namespace Background

/-- Where the map begins that bit 3 of LCDC selects. -/
def mapStart (bus : σ) : ℕ :=
  if (Bus.read8 bus MemoryMap.lcdControl).toNat.testBit 3 then 0x9C00 else 0x9800

/-- Where the tile with an index begins, in the mode that bit 4 of LCDC selects. -/
def tileStart (bus : σ) (index : UInt8) : ℤ :=
  if (Bus.read8 bus MemoryMap.lcdControl).toNat.testBit 4 then 0x8000 + 16 * (index.toNat : ℤ)
  else 0x9000 + 16 * signed8 index

/-- The index of the tile that holds the background pixel in column `x` and row `y`. -/
def tileIndexAt (bus : σ) (x y : ℕ) : UInt8 :=
  Bus.read8 bus (UInt16.ofNat (mapStart bus + 32 * (y / 8) + x / 8))

/-- Where the two bytes begin that hold the background pixel in column `x` and row `y`. -/
def byteAddressAt (bus : σ) (x y : ℕ) : ℤ :=
  tileStart bus (tileIndexAt bus x y) + 2 * ((y % 8 : ℕ) : ℤ)

/-- The colour index of the background pixel in column `x` and row `y`. -/
def rawAt (bus : σ) (x y : ℕ) : ℕ :=
  let lo := Bus.read8 bus (UInt16.ofInt (byteAddressAt bus x y))
  let hi := Bus.read8 bus (UInt16.ofInt (byteAddressAt bus x y + 1))
  (lo.toNat.testBit (7 - x % 8)).toNat + 2 * (hi.toNat.testBit (7 - x % 8)).toNat

/-- The background pixel in column `x` and row `y`. -/
def pixelAt (bus : σ) (x y : ℕ) : UInt32 :=
  panelColors[(Bus.read8 bus MemoryMap.backgroundPalette).toNat >>> (2 * rawAt bus x y) % 4]

end Background

/-! ### Addresses -/

/-- A natural number as an integer is the same word. -/
lemma Word.ofInt_natCast (n : ℕ) : UInt16.ofInt (n : ℤ) = UInt16.ofNat n := by
  have h : ((n : ℤ) % 2 ^ 16).toNat = n % 65536 := by omega
  apply UInt16.toNat_inj.mp
  rw [UInt16.ofInt, h, UInt16.toNat_ofNat', UInt16.toNat_ofNat', Nat.mod_mod]

/-- A number below the end of the address space is its own address. -/
lemma Word.toNat_ofNat_of_lt {n : ℕ} (h : n < 0x10000) : (UInt16.ofNat n).toNat = n :=
  UInt16.toNat_ofNat_of_lt' h

namespace LcdControl

/-- The two readings of a byte as a signed number agree. -/
lemma toInt_toInt8_eq_signed8 (byte : UInt8) : byte.toInt8.toInt = signed8 byte := by
  have h : byte.toInt8.toInt = byte.toBitVec.toInt := rfl
  have hnat : byte.toBitVec.toNat = byte.toNat := rfl
  rw [h, BitVec.toInt_eq_toNat_cond, hnat, signed8]
  split <;> split <;> omega

lemma toNat_mapBase_read (bus : σ) : (read bus).mapBase.toNat = Background.mapStart bus := by
  rw [mapBase, showsMap1, read, Background.mapStart]
  split <;> rfl

lemma tileAddress_read (bus : σ) (index : UInt8) :
    (read bus).tileAddress index = UInt16.ofInt (Background.tileStart bus index) := by
  rw [tileAddress, unsignedTiles, read, Background.tileStart]
  split
  · rw [UInt16.ofInt_add, UInt16.ofInt_mul, Word.ofInt_natCast, UInt16.ofNat_uInt8ToNat]
    rfl
  · rw [toInt_toInt8_eq_signed8, UInt16.ofInt_add]
    rfl

end LcdControl

/-! ### Tiles and palettes -/

namespace Tile

/-- The value of a colour index: one bit of each of the two bytes. -/
lemma val_colorIndex (lo hi : UInt8) (column : ℕ) :
    (colorIndex lo hi column).val =
      (lo.toNat.testBit (7 - column)).toNat + 2 * (hi.toNat.testBit (7 - column)).toNat := rfl

/-- The colour index in a column of a row of a tile. -/
lemma getElem?_row (bus : σ) (addr : UInt16) (y : UInt8) {column : ℕ} (h : column < 8) :
    (row bus addr y)[column]? =
      some (colorIndex (Bus.read8 bus (rowAddress addr y))
        (Bus.read8 bus (rowAddress addr y + 1)) column) := by
  simp [row, width, h]

end Tile

namespace Background

/-- Decoding a row of a tile at once gives the colour indices of its eight pixels. -/
lemma getElem?_tileRow (bus : σ) {x y : ℕ} {row : UInt8}
    (hrow : row.toNat = y % 8) :
    ((tileRow bus (LcdControl.read bus) (x / 8) (y / 8) row)[x % 8]?).map Fin.val =
      some (rawAt bus x y) := by
  have hcell : cellAddress (LcdControl.read bus) (x / 8) (y / 8)
      = UInt16.ofNat (mapStart bus + 32 * (y / 8) + x / 8) := by
    rw [cellAddress, LcdControl.toNat_mapBase_read]
  have haddr : Tile.rowAddress (UInt16.ofInt (tileStart bus (tileIndexAt bus x y))) row
      = UInt16.ofInt (byteAddressAt bus x y) := by
    have htwo : (2 * row.toUInt16 : UInt16) = UInt16.ofInt (2 * ((y % 8 : ℕ) : ℤ)) := by
      rw [UInt16.ofInt_mul, Word.ofInt_natCast, ← hrow, UInt16.ofNat_uInt8ToNat]
      rfl
    rw [Tile.rowAddress, byteAddressAt, UInt16.ofInt_add, htwo]
  rw [tileRow, hcell, LcdControl.tileAddress_read, Tile.getElem?_row _ _ _ (by omega)]
  rw [← tileIndexAt, haddr, Option.map_some, Tile.val_colorIndex, rawAt, UInt16.ofInt_add]
  rfl

end Background

namespace Palette

/-- The colour that the palette in memory gives to a colour index. -/
def colorOf (bus : σ) (raw : ℕ) : UInt32 :=
  panelColors[(Bus.read8 bus MemoryMap.backgroundPalette).toNat >>> (2 * raw) % 4]

/-- The colours of the palette in memory all exist. -/
lemma color?_read (bus : σ) :
    (read bus).color? = fun index => some (colorOf bus index.val) :=
  funext fun _ => color?_ofByte _ _

/-- With the palette in memory, colouring any list of colour indices succeeds. -/
lemma mapM_color?_read (bus : σ) (indices : List ColorIndex) :
    indices.mapM (read bus).color? = some (indices.map fun index => colorOf bus index.val) := by
  rw [color?_read]
  exact List.mapM_pure

/-- The four shades differ from the colour of a panel without power. -/
lemma colorOf_ne_blankPixel (bus : σ) (raw : ℕ) : colorOf bus raw ≠ blankPixel := by
  have h : ∀ shade : Fin 4, panelColors[shade.val] ≠ blankPixel := by decide
  exact h ⟨_, Nat.mod_lt _ (by decide)⟩

end Palette

end DmgCore
