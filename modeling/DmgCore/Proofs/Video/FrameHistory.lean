import Mathlib.Data.List.Induction
import DmgCore.Proofs.LastPut
import DmgCore.Proofs.Screen.FrameRows
import DmgCore.Proofs.Video.BackgroundPicture

/-!
What a frame shows after any use of a renderer.

A host binds frames and takes them away, turns the two switches and has lines drawn, each
time from memory as it is then. Each command leaves an event behind, and the events of a
session are its history.

* `Renderer.DrawRules`: what comes of drawing a line, in all four cases, and
  `Renderer.drawRules`: these rules hold of every renderer; `Renderer.perform_draw_cases`: so a
  line is drawn into the frame or nothing changes;
* `Renderer.perform_switches`: only the command for a switch turns it, and a frame is bound
  or taken away only by the commands for that; `Renderer.Session.run_switches`: so after a
  session each of the three is as the last command for it left it;
* `Renderer.Shows`: a frame shows in each row the last drawing of it since the frame was
  blank, and is blank where nothing was drawn;
* `Renderer.shows_perform`: one command keeps this, whether the frame is bound by it or
  was bound before;
* `Renderer.Session.run_shows_last_drawing`: so it holds after every session.
-/

namespace DmgCore

namespace Scanline

variable {σ : Type} [Bus σ]

/-- No pixel that is drawn has the colour of a panel without power. -/
lemma ne_blankPixel_of_mem_pixels {bus : σ} {line : UInt8} {pixel : UInt32}
    (h : pixel ∈ (pixels bus line).toList) : pixel ≠ blankPixel := by
  rw [Vector.mem_toList_iff, pixels, Vector.mem_ofFn] at h
  obtain ⟨x, rfl⟩ := h
  exact Palette.colorOf_ne_blankPixel bus _

lemma pixels_ne_blank (bus : σ) (line : UInt8) : pixels bus line ≠ Row.blank := by
  intro h
  have hmem : blankPixel ∈ (pixels bus line).toList := by
    rw [h, Row.blank, Row.fill, Vector.mem_toList_iff]
    exact Vector.mem_replicate.mpr ⟨by decide, rfl⟩
  exact ne_blankPixel_of_mem_pixels hmem rfl

end Scanline

namespace Renderer

/-- What a host asks of a renderer that draws into frames. -/
inductive Command (σ : Type) where
  /-- Bind a frame without power in place of the one bound before. -/
  | bind
  /-- Take the frame away. -/
  | unbind
  /-- Turn the host's switch. -/
  | setEnabled (on : Bool)
  /-- Switch the power of the panel. -/
  | setPower (on : Bool)
  /-- Draw a line from memory as it is now. -/
  | draw (bus : σ) (line : UInt8)

/-- What came of a command. -/
inductive Event (σ : Type) where
  /-- A frame without power was bound. -/
  | bound
  /-- The frame was taken away. -/
  | unbound
  /-- The panel lost power while a frame was bound. -/
  | blanked
  /-- A switch was turned in any other way. -/
  | switched
  /-- A line was drawn. -/
  | drawn (bus : σ) (line : UInt8)
  /-- A line was not drawn, because a switch was off. -/
  | skipped
  /-- A line could not be drawn. -/
  | refused (fault : ScanlineFault)

variable {σ : Type} [Bus σ]

/-- The renderer after a command, and what came of it. A line that cannot be drawn leaves
the renderer as it was. -/
def perform (renderer : Renderer FrameBuffer) : Command σ → Renderer FrameBuffer × Event σ
  | .bind => (renderer.bind .blank, .bound)
  | .unbind => (renderer.unbind, .unbound)
  | .setEnabled on => (renderer.setEnabled on, .switched)
  | .setPower on =>
    ((renderer.setPower on).value,
      if !on && renderer.output.isSome then .blanked else .switched)
  | .draw bus line =>
    match renderer.drawScanline bus line with
    | .ok next =>
      (next.value, if renderer.enabled && renderer.powered then .drawn bus line else .skipped)
    | .error fault => (renderer, .refused fault)

/-- A renderer in use, with what came of all commands so far, oldest first. -/
structure Session (σ : Type) where
  renderer : Renderer FrameBuffer
  history : List (Event σ) := []

namespace Session

/-- The session after one more command. -/
def perform (session : Session σ) (command : Command σ) : Session σ :=
  let (next, event) := session.renderer.perform command
  ⟨next, session.history ++ [event]⟩

/-- The session after commands, made one after the other. -/
def run (session : Session σ) (commands : List (Command σ)) : Session σ :=
  commands.foldl perform session

/-- A session begins with the switches as the host wants them and no frame. -/
def start (enabled powered : Bool) : Session σ where
  renderer := { enabled := enabled, powered := powered }

end Session

/-! ### Drawing a line -/

/-- What comes of drawing a line of a memory: nothing while a switch is off; else a fault,
which leaves the renderer as it was, if the screen has no such line or, failing that, if no
frame is bound; else one row of the frame, without a log record. -/
structure DrawRules (renderer : Renderer FrameBuffer) (bus : σ) (line : UInt8) : Prop where
  off : renderer.enabled = false ∨ renderer.powered = false →
    renderer.drawScanline bus line = .ok (pure renderer) ∧
      renderer.perform (.draw bus line) = (renderer, .skipped)
  outside : renderer.enabled = true → renderer.powered = true → 144 ≤ line.toNat →
    renderer.drawScanline bus line = .error (.noSuchLine line) ∧
      renderer.perform (.draw bus line) = (renderer, .refused (.noSuchLine line))
  unbound : renderer.enabled = true → renderer.powered = true → line.toNat < 144 →
    renderer.output = none →
    renderer.drawScanline bus line = .error .noOutput ∧
      renderer.perform (.draw bus line) = (renderer, .refused .noOutput)
  drawn : renderer.enabled = true → renderer.powered = true → line.toNat < 144 →
    ∀ frame, renderer.output = some frame → ∃ next : Renderer FrameBuffer,
    next = { renderer with
      output := some (frame.setRow line.toNat (Scanline.pixels bus line)),
      rowBuffer := Scanline.pixels bus line } ∧
    renderer.drawScanline bus line = .ok (pure next) ∧
      renderer.perform (.draw bus line) = (next, .drawn bus line)

/-- A row of the screen is written to a frame without a warning. -/
lemma writeRow_toUInt64 (frame : FrameBuffer) {line : UInt8} (hline : line.toNat < 144)
    (row : Row) : RowSink.writeRow frame line.toUInt64 row = pure (frame.setRow line.toNat row) :=
  frame.writeRow_of_lt row hline

/-- The rules of drawing hold of every renderer. -/
lemma drawRules (renderer : Renderer FrameBuffer) (bus : σ) (line : UInt8) :
    DrawRules renderer bus line := by
  refine ⟨fun hoff => ?_, fun henabled hpowered hline => ?_,
    fun henabled hpowered hline hnone => ?_, fun henabled hpowered hline frame hframe => ?_⟩
  · have hswitch : (renderer.enabled && renderer.powered) = false := by
      rw [Bool.and_eq_false_iff]
      exact hoff
    have hdraw : renderer.drawScanline bus line = .ok (pure renderer) := by
      rw [drawScanline, if_pos (by rw [hswitch]; rfl)]
    refine ⟨hdraw, ?_⟩
    rw [perform, hdraw, hswitch]
    rfl
  · have hdraw : renderer.drawScanline bus line = .error (.noSuchLine line) := by
      rw [drawScanline, if_neg (by simp [henabled, hpowered]), if_pos hline]
    refine ⟨hdraw, ?_⟩
    rw [perform, hdraw]
  · have hdraw : renderer.drawScanline bus line = .error .noOutput := by
      rw [drawScanline, if_neg (by simp [henabled, hpowered]), if_neg (Nat.not_le.mpr hline),
        hnone]
    refine ⟨hdraw, ?_⟩
    rw [perform, hdraw]
  · have hdraw := drawScanline_of_on bus henabled hpowered hframe hline
    rw [writeRow_toUInt64 frame hline] at hdraw
    refine ⟨_, rfl, hdraw, ?_⟩
    rw [perform, hdraw, henabled, hpowered]
    rfl

/-- Drawing a line is skipped or refused and leaves the renderer as it was, or it replaces one
row of the frame that is bound. -/
lemma perform_draw_cases (renderer : Renderer FrameBuffer) (bus : σ) (line : UInt8) :
    (∃ event, (event = .skipped ∨ ∃ fault, event = .refused fault) ∧
      renderer.perform (.draw bus line) = (renderer, event)) ∨
    ∃ frame next, renderer.output = some frame ∧
      next = { renderer with
        output := some (frame.setRow line.toNat (Scanline.pixels bus line)),
        rowBuffer := Scanline.pixels bus line } ∧
      renderer.perform (.draw bus line) = (next, .drawn bus line) := by
  have hrules := drawRules renderer bus line
  by_cases hon : renderer.enabled = true ∧ renderer.powered = true
  · obtain ⟨henabled, hpowered⟩ := hon
    by_cases hline : line.toNat < 144
    · cases hbound : renderer.output with
      | none =>
          have hrefused := (hrules.unbound henabled hpowered hline hbound).2
          exact Or.inl ⟨_, Or.inr ⟨_, rfl⟩, hrefused⟩
      | some frame =>
          obtain ⟨next, hnext, -, hdrawn⟩ := hrules.drawn henabled hpowered hline frame hbound
          exact Or.inr ⟨frame, next, rfl, hnext, hdrawn⟩
    · have hrefused := (hrules.outside henabled hpowered (Nat.not_lt.mp hline)).2
      exact Or.inl ⟨_, Or.inr ⟨_, rfl⟩, hrefused⟩
  · have hoff : renderer.enabled = false ∨ renderer.powered = false := by
      rwa [not_and_or, Bool.not_eq_true, Bool.not_eq_true] at hon
    exact Or.inl ⟨_, Or.inl rfl, (hrules.off hoff).2⟩

/-! ### The switches -/

namespace Command

/-- The position in which a command puts the host's switch, if it turns it. -/
def enabled? : Command σ → Option Bool
  | .setEnabled on => some on
  | _ => none

/-- The position in which a command puts the power of the panel, if it switches it. -/
def powered? : Command σ → Option Bool
  | .setPower on => some on
  | _ => none

/-- Whether a frame is bound after a command that binds one or takes it away. -/
def bound? : Command σ → Option Bool
  | .bind => some true
  | .unbind => some false
  | _ => none

end Command

/-- What commands leave of the two switches and of the binding: each is as the last command
for it put it, or as it was before if there is none. -/
structure Switched (commands : List (Command σ)) (before after : Renderer FrameBuffer) :
    Prop where
  enabled : LastPut Command.enabled? commands before.enabled after.enabled
  powered : LastPut Command.powered? commands before.powered after.powered
  bound : LastPut Command.bound? commands before.output.isSome after.output.isSome

/-- Switching the power turns no other switch, and a frame stays bound. -/
lemma setPower_switches (renderer : Renderer FrameBuffer) (on : Bool) :
    (renderer.setPower on).value.enabled = renderer.enabled ∧
      (renderer.setPower on).value.powered = on ∧
      (renderer.setPower on).value.output.isSome = renderer.output.isSome := by
  cases on with
  | true => exact ⟨rfl, rfl, rfl⟩
  | false =>
      rw [setPower, if_neg Bool.false_ne_true]
      cases renderer.output with
      | none => exact ⟨rfl, rfl, rfl⟩
      | some frame => exact ⟨rfl, rfl, Option.isSome_some⟩

/-- Drawing a line turns no switch, and a frame stays bound, whether the line is drawn or
not. -/
lemma draw_switches (renderer : Renderer FrameBuffer) (bus : σ) (line : UInt8) :
    (renderer.perform (.draw bus line)).1.enabled = renderer.enabled ∧
      (renderer.perform (.draw bus line)).1.powered = renderer.powered ∧
      (renderer.perform (.draw bus line)).1.output.isSome = renderer.output.isSome := by
  rcases perform_draw_cases renderer bus line with
    ⟨event, -, hperform⟩ | ⟨frame, next, hbound, rfl, hperform⟩
  · rw [hperform]
    exact ⟨rfl, rfl, rfl⟩
  · rw [hperform, hbound]
    exact ⟨rfl, rfl, Option.isSome_some⟩

/-- **One command turns the switch it is for, and no other.** -/
lemma perform_switches (renderer : Renderer FrameBuffer) (command : Command σ) :
    (renderer.perform command).1.enabled = command.enabled?.getD renderer.enabled ∧
      (renderer.perform command).1.powered = command.powered?.getD renderer.powered ∧
      (renderer.perform command).1.output.isSome =
        command.bound?.getD renderer.output.isSome := by
  cases command with
  | bind => exact ⟨rfl, rfl, rfl⟩
  | unbind => exact ⟨rfl, rfl, rfl⟩
  | setEnabled on => exact ⟨rfl, rfl, rfl⟩
  | setPower on => exact setPower_switches renderer on
  | draw bus line => exact draw_switches renderer bus line

/-! ### The row that a history leaves -/

/-- The row that an event draws on line `y` of the screen. -/
def Event.rowDrawn? (y : ℕ) : Event σ → Option Row
  | .drawn bus line => if line.toNat = y then some (Scanline.pixels bus line) else none
  | _ => none

/-- The row that events leave on line `y` of a frame that was blank before them: the one
drawn last. -/
def rowAfter (events : List (Event σ)) (y : ℕ) : Row :=
  (events.filterMap (Event.rowDrawn? y)).getLast?.getD Row.blank

lemma rowAfter_concat (events : List (Event σ)) (event : Event σ) (y : ℕ) :
    rowAfter (events ++ [event]) y = (event.rowDrawn? y).getD (rowAfter events y) := by
  rw [rowAfter, List.filterMap_append]
  cases hdrawn : event.rowDrawn? y with
  | none => simp [hdrawn, rowAfter]
  | some row => simp [hdrawn]

/-- An event draws nothing on line `y`, unless it draws that line. -/
lemma rowDrawn?_eq_none_iff {event : Event σ} {y : ℕ} :
    event.rowDrawn? y = none ↔ ∀ bus line, event = .drawn bus line → line.toNat ≠ y := by
  cases event with
  | drawn bus line => simp [Event.rowDrawn?]
  | _ => simp [Event.rowDrawn?]

/-- Events draw nothing on line `y`, unless one of them draws that line. -/
lemma filterMap_rowDrawn?_eq_nil_iff {events : List (Event σ)} {y : ℕ} :
    events.filterMap (Event.rowDrawn? y) = [] ↔
      ∀ bus line, .drawn bus line ∈ events → line.toNat ≠ y := by
  rw [List.filterMap_eq_nil_iff]
  constructor
  · intro h bus line hmem
    exact rowDrawn?_eq_none_iff.mp (h _ hmem) bus line rfl
  · rintro h event hmem
    refine rowDrawn?_eq_none_iff.mpr ?_
    rintro bus line rfl
    exact h bus line hmem

/-- The last drawing of a line is the row that is left there. -/
lemma rowAfter_of_last {earlier later : List (Event σ)} {bus : σ} {line : UInt8} {y : ℕ}
    (hline : line.toNat = y) (hlast : ∀ bus line, .drawn bus line ∈ later → line.toNat ≠ y) :
    rowAfter (earlier ++ .drawn bus line :: later) y = Scanline.pixels bus line := by
  have hlater := filterMap_rowDrawn?_eq_nil_iff.mpr hlast
  have hdrawn : Event.rowDrawn? y (.drawn bus line) = some (Scanline.pixels bus line) :=
    if_pos hline
  rw [rowAfter, List.filterMap_append, List.filterMap_cons, hdrawn, hlater]
  simp

/-- A line is blank just where nothing was drawn. -/
lemma rowAfter_eq_blank_iff {events : List (Event σ)} {y : ℕ} :
    rowAfter events y = Row.blank ↔ ∀ bus line, .drawn bus line ∈ events → line.toNat ≠ y := by
  rw [← filterMap_rowDrawn?_eq_nil_iff, rowAfter]
  constructor
  · intro hblank
    by_contra hne
    rw [List.getLast?_eq_some_getLast hne, Option.getD_some] at hblank
    obtain ⟨event, -, hdrawn⟩ := List.mem_filterMap.mp (List.getLast_mem hne)
    cases event with
    | drawn bus line =>
        rw [Event.rowDrawn?] at hdrawn
        split at hdrawn
        · exact Scanline.pixels_ne_blank bus line ((Option.some.inj hdrawn).trans hblank)
        · exact absurd hdrawn (Option.some_ne_none _).symm
    | _ => exact absurd hdrawn (Option.some_ne_none _).symm
  · intro hnil
    rw [hnil]
    rfl

/-! ### What the frame shows -/

/-- The frame shows what a history makes of it: it was blank for the last time when it was
bound or when the panel lost power, it has been bound ever since, and each row is the one
drawn last since then. -/
def Shows (frame : FrameBuffer) (history : List (Event σ)) : Prop :=
  ∃ before reset since, history = before ++ reset :: since ∧
    (reset = .bound ∨ reset = .blanked) ∧
    (∀ event ∈ since, event ≠ .bound ∧ event ≠ .blanked ∧ event ≠ .unbound) ∧
    ∀ y < 144, frame.row? (UInt64.ofNat y) = some (rowAfter since y).toList

omit [Bus σ] in
/-- What happened since a frame was blank for the last time is determined by the history. -/
lemma since_unique {before before' since since' : List (Event σ)} {reset reset' : Event σ}
    (hsplit : before ++ reset :: since = before' ++ reset' :: since')
    (hreset : reset = .bound ∨ reset = .blanked) (hreset' : reset' = .bound ∨ reset' = .blanked)
    (hsince : ∀ event ∈ since, ¬ (event = .bound ∨ event = .blanked))
    (hsince' : ∀ event ∈ since', ¬ (event = .bound ∨ event = .blanked)) : since = since' := by
  rcases List.append_eq_append_iff.mp hsplit with ⟨between, -, hrest⟩ | ⟨between, -, hrest⟩
  · cases between with
    | nil => exact (List.cons.inj hrest).2
    | cons first between =>
        rw [(List.cons.inj hrest).2] at hsince
        exact absurd hreset' (hsince reset' (by simp))
  · cases between with
    | nil => exact (List.cons.inj hrest).2.symm
    | cons first between =>
        rw [(List.cons.inj hrest).2] at hsince'
        exact absurd hreset (hsince' reset (by simp))

/-- A blank frame shows an event that blanks it. -/
lemma Shows.of_blank {frame : FrameBuffer} {reset : Event σ} (history : List (Event σ))
    (hreset : reset = .bound ∨ reset = .blanked)
    (hblank : ∀ y < 144, frame.row? (UInt64.ofNat y) = some Row.blank.toList) :
    Shows frame (history ++ [reset]) :=
  ⟨history, reset, [], rfl, hreset, by simp, hblank⟩

/-- An event that leaves the same frame bound is shown if the row that it draws is
replaced and the others are kept. -/
lemma Shows.concat {frame frame' : FrameBuffer} {history : List (Event σ)} {event : Event σ}
    (h : Shows frame history)
    (hevent : event ≠ .bound ∧ event ≠ .blanked ∧ event ≠ .unbound)
    (hrows : ∀ y < 144, ∀ row : Row, frame.row? (UInt64.ofNat y) = some row.toList →
      frame'.row? (UInt64.ofNat y) = some ((event.rowDrawn? y).getD row).toList) :
    Shows frame' (history ++ [event]) := by
  obtain ⟨before, reset, since, rfl, hreset, hsince, hshown⟩ := h
  refine ⟨before, reset, since ++ [event], by simp, hreset, ?_, fun y hy => ?_⟩
  · intro other hmem
    rcases List.mem_append.mp hmem with hold | hnew
    · exact hsince other hold
    · rw [List.mem_singleton.mp hnew]
      exact hevent
  · rw [rowAfter_concat]
    exact hrows y hy _ (hshown y hy)

/-- An event without a drawing that leaves the frame alone is shown. -/
lemma Shows.concat_of_same {frame : FrameBuffer} {history : List (Event σ)} {event : Event σ}
    (h : Shows frame history)
    (hevent : event ≠ .bound ∧ event ≠ .blanked ∧ event ≠ .unbound)
    (hnone : ∀ y, event.rowDrawn? y = none) : Shows frame (history ++ [event]) :=
  h.concat hevent fun y _ row hrow => by rw [hnone y, Option.getD_none, hrow]

/-- Switching the power off blanks all rows of the frame that is bound. -/
lemma setPower_off_of_bound {renderer : Renderer FrameBuffer} {frame : FrameBuffer}
    (hframe : renderer.output = some frame) :
    renderer.setPower false = pure { renderer with
      powered := false
      output := some (frame.setRows Row.blank (List.range 144)) } := by
  have hrows : blankRows frame = pure (frame.setRows Row.blank (List.range 144)) :=
    frame.writeRows_eq_pure Row.blank fun y => List.mem_range.mp
  rw [setPower, if_neg Bool.false_ne_true, hframe]
  dsimp only
  rw [hrows]
  rfl

/-- A frame that is bound when the power goes off is blank. -/
lemma shows_setPower_off {renderer : Renderer FrameBuffer} (history : List (Event σ))
    {frame : FrameBuffer}
    (hframe : (renderer.perform (.setPower false : Command σ)).1.output = some frame) :
    Shows frame (history ++ [(renderer.perform (.setPower false : Command σ)).2]) := by
  cases hbound : renderer.output with
  | none =>
      rw [perform, setPower, if_neg Bool.false_ne_true, hbound] at hframe
      exact absurd hframe (Option.some_ne_none frame).symm
  | some old =>
      rw [perform, setPower_off_of_bound hbound] at hframe ⊢
      rw [hbound]
      obtain rfl := Option.some.inj hframe
      refine Shows.of_blank history (Or.inr rfl) fun y hy => ?_
      rw [old.row?_setRows Row.blank hy, if_pos (List.mem_range.mpr hy)]

section Step

variable {renderer : Renderer FrameBuffer} {history : List (Event σ)}
  (h : ∀ frame, renderer.output = some frame → Shows frame history)

include h

/-- Drawing a line keeps what the frame shows, whether it is drawn or not. -/
lemma shows_draw (bus : σ) (line : UInt8) {frame : FrameBuffer}
    (hframe : (renderer.perform (.draw bus line)).1.output = some frame) :
    Shows frame (history ++ [(renderer.perform (.draw bus line)).2]) := by
  rcases perform_draw_cases renderer bus line with
    ⟨event, hevent, hperform⟩ | ⟨old, next, hbound, rfl, hperform⟩
  · rw [hperform] at hframe ⊢
    rcases hevent with rfl | ⟨fault, rfl⟩
    · exact (h frame hframe).concat_of_same (by simp) fun _ => rfl
    · exact (h frame hframe).concat_of_same (by simp) fun _ => rfl
  · rw [hperform] at hframe ⊢
    obtain rfl := Option.some.inj hframe
    refine (h old hbound).concat (by simp) fun y hy row hrow => ?_
    rw [old.row?_setRow _ hy, Event.rowDrawn?]
    by_cases hsame : y = line.toNat
    · rw [if_pos hsame, if_pos hsame.symm, Option.getD_some]
    · rw [if_neg hsame, if_neg (Ne.symm hsame), Option.getD_none, hrow]

/-- **One command keeps what the frame shows.** -/
lemma shows_perform (command : Command σ) {frame : FrameBuffer}
    (hframe : (renderer.perform command).1.output = some frame) :
    Shows frame (history ++ [(renderer.perform command).2]) := by
  cases command with
  | bind =>
      obtain rfl := Option.some.inj hframe
      exact Shows.of_blank history (Or.inl rfl) fun y hy => FrameBuffer.row?_blank hy
  | unbind => exact absurd hframe (Option.some_ne_none frame).symm
  | setEnabled on => exact (h frame hframe).concat_of_same (by simp [perform]) fun _ => rfl
  | setPower on =>
      cases on with
      | true => exact (h frame hframe).concat_of_same (by simp [perform]) fun _ => rfl
      | false => exact shows_setPower_off history hframe
  | draw bus line => exact shows_draw h bus line hframe

end Step

namespace Session

/-- A session goes on behind its first command. -/
lemma run_cons {renderer next : Renderer FrameBuffer} {history : List (Event σ)}
    {command : Command σ} {event : Event σ} (h : renderer.perform command = (next, event))
    (commands : List (Command σ)) :
    run ⟨renderer, history⟩ (command :: commands) = run ⟨next, history ++ [event]⟩ commands := by
  rw [run, List.foldl_cons, perform, h]
  rfl

/-- After every session each switch is as the last command for it left it. -/
lemma run_switches (session : Session σ) (commands : List (Command σ)) :
    Switched commands session.renderer (session.run commands).renderer where
  enabled := lastPut_foldl (fun session : Session σ => session.renderer.enabled)
    (fun session command => (perform_switches session.renderer command).1) commands session
  powered := lastPut_foldl (fun session : Session σ => session.renderer.powered)
    (fun session command => (perform_switches session.renderer command).2.1) commands session
  bound := lastPut_foldl (fun session : Session σ => session.renderer.output.isSome)
    (fun session command => (perform_switches session.renderer command).2.2) commands session

/-- After every session the frame that is bound shows what the history made of it. -/
lemma shows_run (enabled powered : Bool) (commands : List (Command σ)) {frame : FrameBuffer}
    (hframe : ((start enabled powered).run commands).renderer.output = some frame) :
    Shows frame ((start enabled powered).run commands).history := by
  induction commands using List.reverseRecOn generalizing frame with
  | nil => exact absurd hframe (Option.some_ne_none frame).symm
  | append_singleton commands command ih =>
      rw [run, List.foldl_append] at hframe ⊢
      exact shows_perform (fun _ => ih) command hframe

/-- **A frame shows the last drawing of each row since it was blank.**  Let a host, from
either position of the two switches, bind frames, take them away, turn the switches and
have lines drawn, as often and in whatever order it likes and each time from another
memory.  Each drawing follows `DrawRules`.  At the end each switch is where the last
command for it put it, or where it was at the start, and a frame is bound if one was bound
after the last was taken away.  The frame that is bound was blank
when it was bound or when the panel lost power last, whichever came later, and it has been
bound since.  From then on: a row that was drawn is the row of single pixels of the memory
of its last drawing, none of which has the colour of a panel without power; and a row is
blank just where no drawing was made. -/
theorem run_shows_last_drawing (enabled powered : Bool) (commands : List (Command σ)) :
    (∀ (renderer : Renderer FrameBuffer) (bus : σ) (line : UInt8),
      DrawRules renderer bus line) ∧
    Switched commands (start enabled powered : Session σ).renderer
      ((start enabled powered).run commands).renderer ∧
    ∀ frame, ((start enabled powered).run commands).renderer.output = some frame →
      ∃ before reset since,
        ((start enabled powered).run commands).history = before ++ reset :: since ∧
        (reset = .bound ∨ reset = .blanked) ∧
        (∀ event ∈ since, event ≠ .bound ∧ event ≠ .blanked ∧ event ≠ .unbound) ∧
        ∀ y < 144,
          (∀ earlier bus line later, since = earlier ++ .drawn bus line :: later →
            line.toNat = y → (∀ bus line, .drawn bus line ∈ later → line.toNat ≠ y) →
            frame.row? (UInt64.ofNat y) = some (Scanline.pixels bus line).toList ∧
            ∀ pixel ∈ (Scanline.pixels bus line).toList, pixel ≠ blankPixel) ∧
          (frame.row? (UInt64.ofNat y) = some Row.blank.toList ↔
            ∀ bus line, .drawn bus line ∈ since → line.toNat ≠ y) := by
  refine ⟨drawRules, run_switches (start enabled powered) commands, fun frame hframe => ?_⟩
  obtain ⟨before, reset, since, hhistory, hreset, hsince, hshown⟩ :=
    shows_run enabled powered commands hframe
  refine ⟨before, reset, since, hhistory, hreset, hsince, fun y hy => ⟨?_, ?_⟩⟩
  · rintro earlier bus line later rfl hline hlast
    rw [hshown y hy, rowAfter_of_last hline hlast]
    exact ⟨rfl, fun pixel => Scanline.ne_blankPixel_of_mem_pixels⟩
  · rw [hshown y hy, Option.some_inj, Vector.toList_inj]
    exact rowAfter_eq_blank_iff

/-- A panel gets power and line `7` is drawn, the panel loses power and gets it back, line
`9` is drawn from another memory, and the host's switch is turned off.  At the end that
switch is off and the panel has power, line `9` shows the other memory, and line `7` is
blank. -/
theorem run_shows_last_drawing_power_cycle :
    let mem := FlatMemory.zero
    let mem' := Bus.write8 mem MemoryMap.backgroundPalette 0xFF
    let ended := (start true false).run [.setPower true, .bind, .draw mem 7, .setPower false,
      .setPower true, .draw mem' 9, .setEnabled false]
    ended.renderer.enabled = false ∧ ended.renderer.powered = true ∧
      ∃ frame, ended.renderer.output = some frame ∧
        frame.row? 9 = some (Scanline.pixels mem' 9).toList ∧
        frame.row? 7 = some Row.blank.toList := by
  intro mem mem' ended
  clear_value mem' mem
  let first : Renderer FrameBuffer := { enabled := true, powered := true, output := some .blank }
  obtain ⟨drawn, hdrawn, -, hdraw⟩ := (drawRules first mem 7).drawn rfl rfl (by decide) _ rfl
  have hbound : drawn.output = some _ := congrArg Renderer.output hdrawn
  have henabled : drawn.enabled = true := congrArg Renderer.enabled hdrawn
  have hoff := setPower_off_of_bound hbound
  obtain ⟨last, hlast, -, hdraw'⟩ :=
    (drawRules ((drawn.setPower false).value.setPower true).value mem' 9).drawn
      (by rw [hoff]; exact henabled) rfl (by decide) _ (by rw [hoff]; rfl)
  have hpower : drawn.perform (.setPower false : Command FlatMemory) =
      ((drawn.setPower false).value, .blanked) := by
    rw [Renderer.perform, hbound]
    rfl
  have hrun : ended = ⟨last.setEnabled false,
      [.switched, .bound, .drawn mem 7, .blanked, .switched, .drawn mem' 9, .switched]⟩ := by
    have hbind : Renderer.perform { enabled := true, powered := true }
      (.bind : Command FlatMemory) = (first, .bound) := rfl
    have hon : Renderer.perform { enabled := true, powered := false }
      (.setPower true : Command FlatMemory) = ({ enabled := true, powered := true }, .switched) :=
      rfl
    unfold ended
    rw [start, run_cons hon, run_cons hbind, run_cons hdraw, run_cons hpower, run_cons rfl,
      run_cons hdraw', run_cons rfl]
    rfl
  obtain ⟨-, hswitched, hshown⟩ := run_shows_last_drawing true false
    [.setPower true, .bind, .draw mem 7, .setPower false, .setPower true, .draw mem' 9,
      .setEnabled false]
  have hhost := hswitched.enabled.put [.setPower true, .bind, .draw mem 7, .setPower false,
    .setPower true, .draw mem' 9] (.setEnabled false) [] false rfl rfl (by simp)
  have hpanel := hswitched.powered.put [.setPower true, .bind, .draw mem 7, .setPower false]
    (.setPower true) [.draw mem' 9, .setEnabled false] true rfl rfl (by simp [Command.powered?])
  refine ⟨hhost, hpanel, ?_⟩
  have hbound' : (last.setEnabled false).output = some _ := congrArg Renderer.output hlast
  have hframe := (congrArg (fun session => session.renderer.output) hrun).trans hbound'
  obtain ⟨before, reset, since, hsplit, hreset, hsince, hrows⟩ := hshown _ hframe
  -- the frame was blank for the last time when the panel lost power
  have hevents : since = [.switched, .drawn mem' 9, .switched] := by
    have hsplit' : before ++ reset :: since =
        [.switched, .bound, .drawn mem 7] ++ .blanked :: [.switched, .drawn mem' 9, .switched] :=
      hsplit.symm.trans (congrArg Session.history hrun)
    refine since_unique hsplit' hreset (Or.inr rfl) (fun event hmem => ?_) (by simp)
    exact not_or.mpr ⟨(hsince event hmem).1, (hsince event hmem).2.1⟩
  subst hevents
  refine ⟨_, hframe, ?_, ?_⟩
  · exact ((hrows 9 (by decide)).1 [.switched] mem' 9 [.switched] rfl rfl (by simp)).1
  · refine (hrows 7 (by decide)).2.mpr fun bus line hdrawn => ?_
    obtain ⟨-, rfl⟩ : bus = mem' ∧ line = 9 := by simpa using hdrawn
    decide

end Session

end Renderer

end DmgCore
