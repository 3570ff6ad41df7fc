import DmgCore.Index
import DmgCore.Screen.Rgb24
import DmgCore.Screen.RowSink

/-!
A picture of the screen in memory, put together row by row.

Coordinates are 64-bit words and so is the index computed from them. A read gives
`none` where there is no such index, and where it lies outside the picture.
-/

namespace DmgCore

/-- All pixels of the screen, row after row. -/
structure FrameBuffer where
  pixels : Vector UInt32 (Screen.width * Screen.height)
  deriving DecidableEq

namespace FrameBuffer

/-- A screen without power. -/
def blank : FrameBuffer := ⟨Vector.replicate _ blankPixel⟩

/-- The frame with one row replaced. -/
def setRow (frame : FrameBuffer) (y : Nat) (row : Row) : FrameBuffer :=
  ⟨⟨overwrite frame.pixels.toArray (y * Screen.width) row.toList, by simp⟩⟩

/-- Replaces the row with the given number; a row outside the screen is dropped
with a warning. -/
def writeRow (frame : FrameBuffer) (y : UInt64) (row : Row) : Logged FrameBuffer :=
  if y.toNat < Screen.height then pure (frame.setRow y.toNat row)
  else ⟨frame, [⟨.warn, s!"FrameBuffer: dropping row {y.toNat} outside the visible frame"⟩]⟩

instance : RowSink FrameBuffer where
  writeRow := writeRow

/-- The number of pixels in a row as a word. -/
def rowStride : UInt64 := UInt64.ofNat Screen.width

/-- The pixel at an index computed from a column and a row. -/
def pixel? (frame : FrameBuffer) (x y : UInt64) : Option UInt32 := do
  frame.pixels[(← Index.ofPlace? x y rowStride).toNat]?

/-- The pixels of a row. -/
def row? (frame : FrameBuffer) (y : UInt64) : Option (List UInt32) := do
  let start ← Index.mul? y rowStride
  let stop ← Index.mul? (← Index.add? y 1) rowStride
  if start ≤ stop ∧ stop.toNat ≤ Screen.width * Screen.height then
    some (frame.pixels.toArray.extract start.toNat stop.toNat).toList
  else none

/-- Writes the picture into a buffer as raw RGB24. -/
def fillRgb24 (frame : FrameBuffer) (buffer : Array UInt8) : Array UInt8 :=
  Rgb24.fill buffer frame.pixels.toList

end FrameBuffer

end DmgCore
