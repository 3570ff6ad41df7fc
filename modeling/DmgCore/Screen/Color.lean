/-!
Colours and how they are packed into pixels.

A pixel is a 32-bit word whose bytes, from the least significant one on, are the
red, green and blue channels and the alpha channel. `Color.unpack_pack` and
`Color.pack_unpack` say that nothing is lost either way.
-/

namespace DmgCore

/-- A colour with an alpha channel. -/
structure Color where
  r : UInt8
  g : UInt8
  b : UInt8
  a : UInt8
  deriving DecidableEq, Repr

namespace Color

/-- A colour with full alpha. -/
def ofRgb (r g b : UInt8) : Color := ⟨r, g, b, 0xFF⟩

/-! ### Packing -/

/-- The pixel of a colour. -/
def pack (color : Color) : UInt32 :=
  UInt32.ofNat
    (color.r.toNat + 256 * color.g.toNat + 65536 * color.b.toNat + 16777216 * color.a.toNat)

/-- The colour of a pixel. -/
def unpack (pixel : UInt32) : Color where
  r := UInt8.ofNat (pixel.toNat % 256)
  g := UInt8.ofNat (pixel.toNat / 256 % 256)
  b := UInt8.ofNat (pixel.toNat / 65536 % 256)
  a := UInt8.ofNat (pixel.toNat / 16777216)

theorem toNat_pack (color : Color) :
    color.pack.toNat =
      color.r.toNat + 256 * color.g.toNat + 65536 * color.b.toNat + 16777216 * color.a.toNat := by
  have hr := color.r.toNat_lt
  have hg := color.g.toNat_lt
  have hb := color.b.toNat_lt
  have ha := color.a.toNat_lt
  rw [pack, UInt32.toNat_ofNat']
  omega

@[simp] theorem unpack_pack (color : Color) : unpack color.pack = color := by
  obtain ⟨r, g, b, a⟩ := color
  have hr := r.toNat_lt
  have hg := g.toNat_lt
  have hb := b.toNat_lt
  have ha := a.toNat_lt
  have h := toNat_pack ⟨r, g, b, a⟩
  rw [unpack, mk.injEq]
  refine ⟨?_, ?_, ?_, ?_⟩ <;>
    · apply UInt8.toNat_inj.mp
      rw [UInt8.toNat_ofNat', h]
      dsimp only
      omega

@[simp] theorem pack_unpack (pixel : UInt32) : (unpack pixel).pack = pixel := by
  have hp := pixel.toNat_lt
  apply UInt32.toNat_inj.mp
  rw [toNat_pack]
  simp only [unpack, UInt8.toNat_ofNat']
  omega

/-! ### Named colours -/

def black : Color := ofRgb 0x00 0x00 0x00

def white : Color := ofRgb 0xFF 0xFF 0xFF

/-- Shade `0` of the panel. -/
def lightest : Color := ofRgb 0x9B 0xBC 0x0F

/-- Shade `1` of the panel. -/
def light : Color := ofRgb 0x8B 0xAC 0x0F

/-- Shade `2` of the panel. -/
def dark : Color := ofRgb 0x30 0x62 0x30

/-- Shade `3` of the panel. -/
def darkest : Color := ofRgb 0x0F 0x38 0x0F

/-- The panel without power. -/
def screenOff : Color := ofRgb 0xCA 0xDC 0x9F

end Color

/-- The pixels of the four shades, lightest first, and of the panel without power. -/
def panelColors : Vector UInt32 5 :=
  #v[Color.lightest.pack, Color.light.pack, Color.dark.pack, Color.darkest.pack,
     Color.screenOff.pack]

/-- The place in `panelColors` that no shade uses. -/
abbrev blankSlot : Nat := 4

/-- The pixel of the panel without power. -/
def blankPixel : UInt32 := panelColors[blankSlot]

end DmgCore
