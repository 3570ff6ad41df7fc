import DmgCore.Screen.RowSink
import DmgCore.Video.Background

/-!
One row of the screen.

The screen is a window of `160` by `144` pixels on the background, moved by the
scroll registers SCX and SCY; where it leaves the background on one side it
comes in again on the other. A row is made of `21` whole tiles, which cover it
wherever it begins, cut to the window.
-/

namespace DmgCore

namespace Scanline

variable {σ : Type} [Bus σ]

/-- Whole tiles that cover a row of the screen wherever it begins. -/
abbrev tiles : Nat := Screen.width / Tile.width + 1

/-- The row of the background shown on a line of the screen. -/
def backgroundRow (bus : σ) (line : UInt8) : UInt8 := line + Bus.read8 bus MemoryMap.scrollY

/-- The column of the background shown at the left of the screen. -/
def backgroundColumn (bus : σ) : UInt8 := Bus.read8 bus MemoryMap.scrollX

/-- The colour indices of the tiles that a line touches, from the tile on that holds
the leftmost pixel. -/
def strip (bus : σ) (line : UInt8) : List ColorIndex :=
  let lcdc := LcdControl.read bus
  let y := backgroundRow bus line
  let firstColumn := (backgroundColumn bus).toNat / Tile.width
  (List.range tiles).flatMap fun i =>
    Background.tileRow bus lcdc ((firstColumn + i) % Background.cells) (y.toNat / Tile.width)
      (y % 8)

theorem length_strip (bus : σ) (line : UInt8) : (strip bus line).length = 168 := by
  simp [strip, tiles, Screen.width, Tile.width, List.length_flatMap, List.map_const']

/-- The colour indices of a line of the screen. -/
def indices (bus : σ) (line : UInt8) : Vector ColorIndex Screen.width :=
  let fine := (backgroundColumn bus).toNat % Tile.width
  ⟨(((strip bus line).drop fine).take Screen.width).toArray, by
    have hfine : fine < 8 := Nat.mod_lt _ (by decide)
    have hwidth : Screen.width = 160 := rfl
    simp only [List.size_toArray, List.length_take, List.length_drop, length_strip, hwidth]
    omega⟩

/-- The pixels of a line of the screen, if all its shades have colours. -/
def row? (bus : σ) (line : UInt8) : Option Row :=
  (indices bus line).mapM (Palette.read bus).color?

end Scanline

end DmgCore
