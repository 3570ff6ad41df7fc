import DmgCore.FlatMemory
import DmgCore.Screen.FrameBuffer
import DmgCore.Video.Renderer
import DmgCore.Video.TileAtlas

/-!
The pictures that can be made of a memory snapshot.

* `View.ofName?`: a view by one of its names;
* `View.render`: the picture of a snapshot, as raw RGB24 with its size.
-/

namespace DmgCore

/-- What is shown of a snapshot. -/
inductive View where
  /-- All tiles in video memory. -/
  | tiles
  /-- The whole background. -/
  | background
  /-- The part of the background on the screen. -/
  | frame
  deriving DecidableEq, Repr

/-- A picture as raw RGB24. -/
structure Rendering where
  width : Nat
  height : Nat
  bytes : Array UInt8

/-- Why there is no picture of a snapshot. -/
inductive RenderFault where
  /-- A line or a picture could not be drawn. -/
  | notDrawn (fault : ScanlineFault)
  /-- The renderer has drawn all lines, but has no frame to give back. -/
  | lostFrame
  deriving DecidableEq, Repr

/-- The text of a fault, if it is one that is reported. -/
def RenderFault.message? : RenderFault → Option String
  | notDrawn fault => fault.message?
  | lostFrame => some "renderer lost its frame buffer"

namespace View

/-- The view shown when none is asked for. -/
def default : View := frame

/-- The word for a view in reports. -/
def title : View → String
  | tiles => "Tiles"
  | background => "Background"
  | frame => "Frame"

/-- The view with a name; names are exact. -/
def ofName? : String → Option View
  | "tiles" | "atlas" => some tiles
  | "bg" | "background" => some background
  | "frame" | "screen" => some frame
  | _ => none

/-- The complaint about a name that no view has. -/
def unknownMessage (name : String) : String :=
  s!"unknown view '{name}'. Supported: tiles, bg, frame"

/-- A picture with its size, or the fault that there is none. -/
def encode (picture? : Option Picture) : Except RenderFault (Logged Rendering) :=
  match picture? with
  | some picture => .ok (pure ⟨picture.width.toNat, picture.height.toNat, picture.rgb24⟩)
  | none => .error (.notDrawn .noSuchShade)

/-- The screen with its power on, drawn line by line. -/
def renderFrame (memory : FlatMemory) : Except RenderFault (Logged Rendering) := do
  let renderer : Renderer FrameBuffer := { powered := true, output := some FrameBuffer.blank }
  let drawn ← (renderer.drawFrame memory).mapError RenderFault.notDrawn
  match drawn.value.output with
  | some screen =>
    let buffer := Array.replicate (Screen.width * Screen.height * 3) 0
    return ⟨⟨Screen.width, Screen.height, screen.fillRgb24 buffer⟩, drawn.records⟩
  | none => throw .lostFrame

/-- The picture of a snapshot, with the records sent while it was made. -/
def render (view : View) (memory : FlatMemory) : Except RenderFault (Logged Rendering) :=
  match view with
  | tiles => encode (TileAtlas.picture? memory)
  | background => encode (Background.picture? memory)
  | frame => renderFrame memory

end View

end DmgCore
