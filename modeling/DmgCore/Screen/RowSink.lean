import DmgCore.Log
import DmgCore.Screen.Color

/-!
Where pictures go.

* `RowSink`: takes a picture of the screen one row at a time;
* `PictureSink`: takes a whole picture at once.
-/

namespace DmgCore

namespace Screen

/-- Pixels in a row of the screen. -/
abbrev width : Nat := 160

/-- Rows of the screen. -/
abbrev height : Nat := 144

end Screen

/-- One row of the screen. -/
abbrev Row := Vector UInt32 Screen.width

namespace Row

/-- A row of one colour. -/
def fill (pixel : UInt32) : Row := Vector.replicate Screen.width pixel

/-- The row of a panel without power. -/
def blank : Row := fill blankPixel

end Row

/-- Something that rows of the screen can be written to. -/
class RowSink (τ : Type) where
  /-- Takes the pixels of the row with the given number. -/
  writeRow : τ → UInt64 → Row → Logged τ

/-- Something that whole pictures can be written to. -/
class PictureSink (τ : Type) where
  /-- Takes the width, the height and the pixels, row after row. -/
  writePicture : τ → UInt64 → UInt64 → Array UInt32 → τ

end DmgCore
