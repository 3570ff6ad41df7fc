import DmgCore.Overwrite
import DmgCore.Screen.Color

/-!
Raw RGB24: three bytes for a pixel, red first.

Writing into a buffer fills whole groups of three bytes, as many as both the
buffer and the pixels allow, and leaves the rest of the buffer alone.
-/

namespace DmgCore

namespace Rgb24

/-- The three bytes of a pixel; alpha is dropped. -/
def channels (pixel : UInt32) : List UInt8 :=
  let color := Color.unpack pixel
  [color.r, color.g, color.b]

/-- Writes pixels to the front of a buffer. -/
def fill (buffer : Array UInt8) (pixels : List UInt32) : Array UInt8 :=
  overwrite buffer 0 ((pixels.take (buffer.size / 3)).flatMap channels)

/-- The bytes of pixels, in a buffer of just the size they need. -/
def encode (pixels : List UInt32) : Array UInt8 :=
  fill (Array.replicate (3 * pixels.length) 0) pixels

@[simp] theorem length_channels (pixel : UInt32) : (channels pixel).length = 3 := rfl

@[simp] theorem size_fill (buffer : Array UInt8) (pixels : List UInt32) :
    (fill buffer pixels).size = buffer.size := by
  simp [fill]

@[simp] theorem size_encode (pixels : List UInt32) : (encode pixels).size = 3 * pixels.length := by
  simp [encode]

end Rgb24

end DmgCore
