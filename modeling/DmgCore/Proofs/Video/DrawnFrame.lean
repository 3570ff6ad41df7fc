import DmgCore.Proofs.LastPut
import DmgCore.Proofs.Video.FrameHistory

/-!
A whole frame drawn line by line.

* `FrameBuffer.drawLines`: a frame with lines of the screen put into their rows, one after the
  other, and `FrameBuffer.row?_drawLines`: each of these rows then holds its line;
* `Renderer.drawFrom_of_on`: a renderer that is on draws lines of the screen without fault or
  log record, and leaves that frame;
* `Renderer.drawFrame_of_on`: so it draws all lines of the screen.
-/

namespace DmgCore

variable {σ : Type} [Bus σ]

namespace FrameBuffer

/-- The frame with lines of the screen in their rows, put there in order. -/
def drawLines (frame : FrameBuffer) (bus : σ) (lines : List ℕ) : FrameBuffer :=
  lines.foldl (fun frame y => frame.setRow y (Scanline.pixels bus (UInt8.ofNat y))) frame

lemma drawLines_cons (frame : FrameBuffer) (bus : σ) (y : ℕ) (lines : List ℕ) :
    frame.drawLines bus (y :: lines) =
      (frame.setRow y (Scanline.pixels bus (UInt8.ofNat y))).drawLines bus lines := by
  rw [drawLines, List.foldl_cons, drawLines]

/-- What a line leaves in row `y`, if it belongs there. -/
def lineFor? (bus : σ) (y line : ℕ) : Option (Option (List UInt32)) :=
  if y = line then some (some (Scanline.pixels bus (UInt8.ofNat line)).toList) else none

/-- A row of the screen holds the line that was put there. -/
lemma row?_drawLines (frame : FrameBuffer) (bus : σ) {lines : List ℕ} {y : ℕ} (hy : y < 144)
    (hmem : y ∈ lines) :
    (frame.drawLines bus lines).row? (UInt64.ofNat y) =
      some (Scanline.pixels bus (UInt8.ofNat y)).toList := by
  have hstep : ∀ (frame : FrameBuffer) (line : ℕ),
      (frame.setRow line (Scanline.pixels bus (UInt8.ofNat line))).row? (UInt64.ofNat y) =
        (lineFor? bus y line).getD (frame.row? (UInt64.ofNat y)) := by
    intro frame line
    rw [row?_setRow _ _ hy, lineFor?]
    split <;> rfl
  have hlast := lastPut_foldl (·.row? (UInt64.ofNat y)) hstep lines frame
  rcases exists_last_put (lineFor? bus y) lines with
    hnone | ⟨before, line, later, row, hsplit, hput, hlater⟩
  · have hline : lineFor? bus y y ≠ none := by simp [lineFor?]
    exact absurd (hnone y hmem) hline
  · rw [drawLines, hlast.put before line later row hsplit hput hlater]
    rw [lineFor?, Option.ite_none_right_eq_some, Option.some_inj] at hput
    rw [hput.1, hput.2]

end FrameBuffer

namespace Renderer

/-- One line of the screen drawn by a renderer that is on. -/
lemma drawScanline_ofNat {renderer : Renderer FrameBuffer} {frame : FrameBuffer} (bus : σ)
    {y : ℕ} (henabled : renderer.enabled = true) (hpowered : renderer.powered = true)
    (hframe : renderer.output = some frame) (hy : y < 144) :
    renderer.drawScanline bus (UInt8.ofNat y) =
      .ok (pure { renderer with
        output := some (frame.setRow y (Scanline.pixels bus (UInt8.ofNat y))),
        rowBuffer := Scanline.pixels bus (UInt8.ofNat y) }) := by
  have hline : (UInt8.ofNat y).toNat = y := by
    rw [UInt8.toNat_ofNat']
    omega
  obtain ⟨next, rfl, hdraw, -⟩ := (drawRules renderer bus (UInt8.ofNat y)).drawn henabled hpowered
    (by rw [hline]; exact hy) frame hframe
  rw [hdraw, hline]

/-- Lines of the screen drawn in order by a renderer that is on, after which it is on still. -/
lemma drawFrom_of_on (renderer : Renderer FrameBuffer) (frame : FrameBuffer) (bus : σ)
    (henabled : renderer.enabled = true) (hpowered : renderer.powered = true)
    (hframe : renderer.output = some frame) {lines : List ℕ} (hlines : ∀ y ∈ lines, y < 144) :
    ∃ next : Renderer FrameBuffer, next.output = some (frame.drawLines bus lines) ∧
      lines.foldlM (fun (drawn : Logged (Renderer FrameBuffer)) y => do
        let next ← drawn.value.drawScanline bus (UInt8.ofNat y)
        return ⟨next.value, drawn.records ++ next.records⟩) (pure renderer) =
      (.ok (pure next) : Except ScanlineFault (Logged (Renderer FrameBuffer))) := by
  induction lines generalizing renderer frame with
  | nil => exact ⟨renderer, hframe, rfl⟩
  | cons y lines ih =>
      obtain ⟨hy, hrest⟩ := List.forall_mem_cons.mp hlines
      obtain ⟨next, hnext, hrun⟩ := ih { renderer with
        output := some (frame.setRow y (Scanline.pixels bus (UInt8.ofNat y))),
        rowBuffer := Scanline.pixels bus (UInt8.ofNat y) } _ henabled hpowered rfl hrest
      rw [FrameBuffer.drawLines_cons, List.foldlM_cons, Logged.value_pure,
        drawScanline_ofNat bus henabled hpowered hframe hy]
      exact ⟨next, hnext, hrun⟩

/-- A renderer that is on draws all lines of the screen into the frame that is bound. -/
lemma drawFrame_of_on (renderer : Renderer FrameBuffer) (frame : FrameBuffer) (bus : σ)
    (henabled : renderer.enabled = true) (hpowered : renderer.powered = true)
    (hframe : renderer.output = some frame) :
    ∃ next : Renderer FrameBuffer,
      next.output = some (frame.drawLines bus (List.range Screen.height)) ∧
        renderer.drawFrame bus = .ok (pure next) := by
  have hlines : ∀ y ∈ List.range Screen.height, y < 144 := fun y hy => List.mem_range.mp hy
  rw [drawFrame]
  exact drawFrom_of_on renderer frame bus henabled hpowered hframe hlines

end Renderer

end DmgCore
