import DmgCore.Index
import DmgCore.Screen.Rgb24
import DmgCore.Screen.RowSink

/-!
A picture of any size.

Nothing ties the number of pixels to width and height. As in a frame buffer, the
index of a pixel is a 64-bit word, and a read gives `none` where there is no such
index or it lies outside the picture.
-/

namespace DmgCore

/-- A picture: its size and its pixels, row after row. -/
structure Picture where
  width : UInt64 := 0
  height : UInt64 := 0
  pixels : Array UInt32 := #[]
  deriving DecidableEq

namespace Picture

/-- The picture without pixels. -/
def empty : Picture := {}

/-- A picture takes another one by becoming it. -/
instance : PictureSink Picture where
  writePicture _ width height pixels := ⟨width, height, pixels⟩

/-- The pixel at an index computed from a column and a row. -/
def pixel? (picture : Picture) (x y : UInt64) : Option UInt32 := do
  picture.pixels[(← Index.ofPlace? x y picture.width).toNat]?

/-- The picture as raw RGB24. -/
def rgb24 (picture : Picture) : Array UInt8 := Rgb24.encode picture.pixels.toList

end Picture

end DmgCore
