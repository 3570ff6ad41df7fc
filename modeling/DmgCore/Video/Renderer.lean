import DmgCore.Video.Scanline

/-!
The renderer: draws the background into a row sink, line by line.

There are two switches: the host's (`enabled`) and the power of the panel
(`powered`). Lines are drawn only while both are on. When the panel loses
power, all rows of the sink are blanked.

* `Renderer.drawScanline`: draws one line;
* `Renderer.setPower`: switches the power of the panel;
* `Renderer.drawFrame`: draws all lines of the screen.
-/

namespace DmgCore

/-- Why a line could not be drawn. -/
inductive ScanlineFault where
  /-- The screen has no such line. -/
  | noSuchLine (line : UInt8)
  /-- There is nothing to draw into. -/
  | noOutput
  /-- A pixel has a shade without a colour. -/
  | noSuchShade
  deriving DecidableEq, Repr

/-- The text of a fault. A shade without a colour is a defect, which is not reported. -/
def ScanlineFault.message? : ScanlineFault → Option String
  | noSuchLine line => some s!"scanline {line.toNat} is outside the visible 0..144 range"
  | noOutput => some "draw_line called before an output sink was bound"
  | noSuchShade => none

/-- The state of the renderer. -/
structure Renderer (τ : Type) where
  /-- The host's switch. -/
  enabled : Bool := true
  /-- The power of the panel. -/
  powered : Bool := false
  /-- What is drawn into. -/
  output : Option τ := none
  /-- The row drawn last, whose storage the next one takes over. -/
  rowBuffer : Row := Row.fill 0

namespace Renderer

variable {τ : Type}

/-- Binds a sink in place of the one bound before. -/
def bind (renderer : Renderer τ) (sink : τ) : Renderer τ := { renderer with output := some sink }

/-- Binds no sink any more. -/
def unbind (renderer : Renderer τ) : Renderer τ := { renderer with output := none }

/-- Turns the host's switch. -/
def setEnabled (renderer : Renderer τ) (on : Bool) : Renderer τ := { renderer with enabled := on }

variable [RowSink τ]

/-- Writes the colour of a panel without power to all rows of a sink, from the top. -/
def blankRows (sink : τ) : Logged τ :=
  (List.range Screen.height).foldlM
    (fun sink y => RowSink.writeRow sink (UInt64.ofNat y) Row.blank) sink

/-- Switches the power of the panel. Without power the panel shows nothing, so every
row of the sink is blanked at once, even if the power was off before. -/
def setPower (renderer : Renderer τ) (on : Bool) : Logged (Renderer τ) :=
  let switched := { renderer with powered := on }
  if on then pure switched
  else
    match renderer.output with
    | some sink => do return switched.bind (← blankRows sink)
    | none => ⟨switched, [⟨.debug, "PPU: display off with no output bound, nothing to clear"⟩]⟩

variable {σ : Type} [Bus σ]

/-- Draws one line of the screen. While one of the switches is off, nothing happens. -/
def drawScanline (renderer : Renderer τ) (bus : σ) (line : UInt8) :
    Except ScanlineFault (Logged (Renderer τ)) :=
  if !(renderer.enabled && renderer.powered) then .ok (pure renderer)
  else if Screen.height ≤ line.toNat then .error (.noSuchLine line)
  else
    match renderer.output with
    | none => .error .noOutput
    | some sink =>
      match Scanline.row? bus line with
      | none => .error .noSuchShade
      | some row =>
        let renderer := { renderer.unbind with rowBuffer := row }
        .ok do return renderer.bind (← RowSink.writeRow sink line.toUInt64 renderer.rowBuffer)

/-- Draws all lines of the screen, from the top. -/
def drawFrame (renderer : Renderer τ) (bus : σ) : Except ScanlineFault (Logged (Renderer τ)) :=
  (List.range Screen.height).foldlM
    (fun drawn line => do
      let next ← drawn.value.drawScanline bus (UInt8.ofNat line)
      return ⟨next.value, drawn.records ++ next.records⟩)
    (pure renderer)

end Renderer

end DmgCore
