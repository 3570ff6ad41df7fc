import DmgCore.Bus.Basic
import DmgCore.MemoryMap
import DmgCore.Screen.Color

/-!
Palettes: from the colour indices in tiles to the shades of the panel.

A tile names one of four colour indices for each pixel, and a palette has a slot
with a shade for each index. The palette in the register BGP can only hold
shades below four, so all its colours exist (`Palette.color?_ofByte`); a palette
made by hand may name a shade that has no colour.
-/

namespace DmgCore

/-- What a tile says about one pixel. -/
abbrev ColorIndex := Fin 4

/-- The colour index in the two lowest bits of a byte. -/
def ColorIndex.ofByte (raw : UInt8) : ColorIndex :=
  ⟨raw.toNat % 4, Nat.mod_lt _ (by decide)⟩

/-- A shade for each colour index. -/
structure Palette where
  slots : Vector UInt8 4
  deriving DecidableEq

namespace Palette

variable {σ : Type} [Bus σ]

/-- Each index is its own shade. -/
def identity : Palette := ⟨#v[0, 1, 2, 3]⟩

/-- The palette packed into a byte, two bits a slot, slot `0` lowest. -/
def ofByte (byte : UInt8) : Palette :=
  ⟨Vector.ofFn fun i => UInt8.ofNat (byte.toNat >>> (2 * i.val) % 4)⟩

/-- The background palette as it stands in memory. -/
def read (bus : σ) : Palette := ofByte (Bus.read8 bus MemoryMap.backgroundPalette)

/-- The shade of a colour index. -/
def shade (palette : Palette) (index : ColorIndex) : UInt8 := palette.slots[index]

/-- The pixel of a colour index, if its shade has a colour. -/
def color? (palette : Palette) (index : ColorIndex) : Option UInt32 :=
  panelColors[(palette.shade index).toNat]?

theorem toNat_shade_ofByte (byte : UInt8) (index : ColorIndex) :
    ((ofByte byte).shade index).toNat = byte.toNat >>> (2 * index.val) % 4 := by
  simp only [shade, ofByte, Fin.getElem_fin, Vector.getElem_ofFn, UInt8.toNat_ofNat']
  omega

/-- Every colour of a palette packed into a byte exists, and is one of the four shades. -/
theorem color?_ofByte (byte : UInt8) (index : ColorIndex) :
    (ofByte byte).color? index = some (panelColors[byte.toNat >>> (2 * index.val) % 4]) := by
  rw [color?, toNat_shade_ofByte]
  exact Vector.getElem?_eq_getElem _

end Palette

end DmgCore
