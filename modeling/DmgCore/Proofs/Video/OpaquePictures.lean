import DmgCore.Proofs.Screen.Rgb24Bytes
import DmgCore.Proofs.Video.AtlasPicture
import DmgCore.Proofs.Video.FrameHistory

/-!
Everything that is rendered is opaque, so that raw RGB24 loses nothing of it.

* `Palette.byteAt_of_mem_panelColors`: all colours of the panel have full alpha;
* `Scanline.opaque_pixels`, `TileAtlas.exists_opaque_picture`,
  `Background.exists_opaque_picture`: so have the pixels of a line and of the two pictures;
* `FrameBuffer.opaque_of_rows`: a frame is opaque if all of its rows are;
* `Renderer.LeavesOpaque`: the rows that a renderer draws or blanks are opaque, whatever the
  frame held before, and `Renderer.Session.opaque_run`: so is a frame that was blank when it was
  bound, after any use of the renderer;
* `Rgb24.fill_holds_channels`: the bytes of every buffer after pixels are written to it, and the
  pixels that are given back.
-/

namespace DmgCore

variable {σ : Type} [Bus σ]

/-! ### What is rendered -/

/-- All colours of the panel have full alpha. -/
lemma Palette.byteAt_of_mem_panelColors {pixel : UInt32} (h : pixel ∈ panelColors) :
    Rgb24.byteAt pixel 3 = 0xFF := by
  have hall : ∀ place : Fin 5, Rgb24.byteAt panelColors[place.val] 3 = 0xFF := by decide
  obtain ⟨place, hplace, rfl⟩ := Vector.getElem_of_mem h
  exact hall ⟨place, hplace⟩

/-- The palette in memory has only colours of the panel. -/
lemma Palette.byteAt_colorOf (bus : σ) (raw : ℕ) : Rgb24.byteAt (colorOf bus raw) 3 = 0xFF :=
  byteAt_of_mem_panelColors (Vector.getElem_mem _)

/-- The picture of the tile atlas is opaque. -/
lemma TileAtlas.exists_opaque_picture (bus : σ) :
    ∃ atlas, picture? bus = some atlas ∧ Rgb24.Opaque atlas.pixels.toList := by
  refine ⟨_, picture?_eq_some bus, fun pixel hpixel => ?_⟩
  obtain ⟨index, -, rfl⟩ := List.mem_map.mp hpixel
  exact Palette.byteAt_of_mem_panelColors (Vector.getElem_mem _)

/-- The picture of the whole background is opaque. -/
lemma Background.exists_opaque_picture (bus : σ) :
    ∃ picture, picture? bus = some picture ∧ Rgb24.Opaque picture.pixels.toList := by
  refine ⟨_, picture?_eq_some bus, fun pixel hpixel => ?_⟩
  obtain ⟨index, -, rfl⟩ := List.mem_map.mp hpixel
  exact Palette.byteAt_colorOf bus index.val

/-- The pixels of a line are opaque. -/
lemma Scanline.opaque_pixels (bus : σ) (line : UInt8) :
    Rgb24.Opaque (pixels bus line).toList := by
  intro pixel hpixel
  rw [Vector.mem_toList_iff, pixels, Vector.mem_ofFn] at hpixel
  obtain ⟨x, rfl⟩ := hpixel
  exact Palette.byteAt_colorOf bus _

/-- The row of a panel without power is opaque. -/
lemma Row.opaque_blank : Rgb24.Opaque Row.blank.toList := by
  intro pixel hpixel
  rw [Vector.mem_toList_iff, Row.blank, Row.fill] at hpixel
  obtain ⟨-, rfl⟩ := Vector.mem_replicate.mp hpixel
  exact Palette.byteAt_of_mem_panelColors (Vector.getElem_mem _)

/-- A frame is opaque if all of its rows are. -/
lemma FrameBuffer.opaque_of_rows {frame : FrameBuffer}
    (h : ∀ y < 144, ∃ row, frame.row? (UInt64.ofNat y) = some row ∧ Rgb24.Opaque row) :
    Rgb24.Opaque frame.pixels.toList := by
  intro pixel hpixel
  obtain ⟨n, hn, hget⟩ := List.getElem_of_mem hpixel
  have hsize : frame.pixels.toList.length = 23040 := frame.pixels.length_toList
  have hy : n / 160 < 144 := by omega
  obtain ⟨row, hrow, hopaque⟩ := h (n / 160) hy
  rw [row?_eq_rowAt _ hy, Option.some_inj] at hrow
  have hplace : n / 160 * 160 + n % 160 = n := Nat.div_add_mod' n 160
  have hin : (frame.rowAt (n / 160))[n % 160]? = some pixel := by
    rw [getElem?_rowAt _ hy (Nat.mod_lt n (by decide)), hplace, Vector.getElem?_toArray,
      ← Vector.getElem?_toList, List.getElem?_eq_getElem hn, hget]
  exact hopaque pixel (hrow ▸ List.mem_of_getElem? hin)

namespace Renderer

/-- The rows that a renderer draws into a frame or blanks there are opaque. -/
structure LeavesOpaque (renderer : Renderer FrameBuffer) (bus : σ) (line : UInt8) : Prop where
  drawn : renderer.enabled = true → renderer.powered = true → line.toNat < 144 →
    ∃ next drawn row, renderer.drawScanline bus line = .ok (pure next) ∧
      next.output = some drawn ∧ drawn.row? (UInt64.ofNat line.toNat) = some row ∧
      Rgb24.Opaque row
  blanked : ∃ blank, (renderer.setPower false).value.output = some blank ∧
    Rgb24.Opaque blank.pixels.toList

/-- Whatever a frame held before, the rows that are drawn or blanked are opaque. -/
lemma leavesOpaque {renderer : Renderer FrameBuffer} {frame : FrameBuffer}
    (hframe : renderer.output = some frame) (bus : σ) (line : UInt8) :
    renderer.LeavesOpaque bus line := by
  refine ⟨fun henabled hpowered hline => ?_, ?_⟩
  · obtain ⟨next, rfl, hdraw, -⟩ :=
      (drawRules renderer bus line).drawn henabled hpowered hline frame hframe
    refine ⟨_, _, _, hdraw, rfl, ?_, Scanline.opaque_pixels bus line⟩
    rw [FrameBuffer.row?_setRow _ _ hline, if_pos rfl]
  · rw [setPower_off_of_bound hframe]
    refine ⟨_, rfl, FrameBuffer.opaque_of_rows fun y hy => ⟨_, ?_, Row.opaque_blank⟩⟩
    rw [FrameBuffer.row?_setRows _ _ hy, if_pos (List.mem_range.mpr hy)]

/-- The row that events leave on a line of a frame that was blank before them is opaque. -/
lemma opaque_rowAfter (events : List (Event σ)) (y : ℕ) :
    Rgb24.Opaque (rowAfter events y).toList := by
  induction events using List.reverseRecOn with
  | nil => exact Row.opaque_blank
  | append_singleton events event ih =>
      rw [rowAfter_concat]
      cases event with
      | drawn bus line =>
          rw [Event.rowDrawn?]
          split
          · exact Scanline.opaque_pixels bus line
          · exact ih
      | _ => exact ih

/-- After any use of a renderer the frame that is bound is opaque. -/
lemma Session.opaque_run (enabled powered : Bool) (commands : List (Command σ))
    {frame : FrameBuffer}
    (hframe : ((start enabled powered).run commands).renderer.output = some frame) :
    Rgb24.Opaque frame.pixels.toList := by
  obtain ⟨before, reset, since, -, -, -, hshown⟩ := shows_run enabled powered commands hframe
  exact FrameBuffer.opaque_of_rows fun y hy => ⟨_, hshown y hy, opaque_rowAfter since y⟩

end Renderer

/-! ### The statements together -/

namespace Rgb24

/-- **Raw RGB24 holds the colours of pixels, and gives back those that are opaque.**  Whatever
pixels are written to whatever buffer, the buffer is then as `Filled` says, and the pixels for
which it had room are given back by its bytes just if they are opaque.  So it is where a frame
is written to a buffer, which gives back all of a frame that it has room for, and where the
bytes of a picture are made, which are three for each pixel.  The pictures of the tile atlas and
of the whole background are opaque for every memory, and so are the rows that a renderer draws
or blanks, and every frame that was blank when it was bound. -/
theorem fill_holds_channels :
    (∀ (buffer : Array UInt8) (pixels : List UInt32),
      Filled buffer pixels (fill buffer pixels) ∧
      (repack ((fill buffer pixels).toList.take (3 * min (buffer.size / 3) pixels.length)) =
        pixels.take (buffer.size / 3) ↔ Opaque (pixels.take (buffer.size / 3)))) ∧
    (∀ (frame : FrameBuffer) (buffer : Array UInt8),
      Filled buffer frame.pixels.toList (frame.fillRgb24 buffer) ∧
      (69120 ≤ buffer.size → (repack ((frame.fillRgb24 buffer).toList.take 69120) =
        frame.pixels.toList ↔ Opaque frame.pixels.toList))) ∧
    (∀ picture : Picture, picture.rgb24.size = 3 * picture.pixels.size ∧
      Filled (Array.replicate (3 * picture.pixels.size) 0) picture.pixels.toList picture.rgb24 ∧
      (repack picture.rgb24.toList = picture.pixels.toList ↔ Opaque picture.pixels.toList)) ∧
    (∀ bus : σ, (∃ atlas, TileAtlas.picture? bus = some atlas ∧ Opaque atlas.pixels.toList) ∧
      ∃ picture, Background.picture? bus = some picture ∧ Opaque picture.pixels.toList) ∧
    (∀ (renderer : Renderer FrameBuffer) (bus : σ) (line : UInt8),
      renderer.output.isSome = true → renderer.LeavesOpaque bus line) ∧
    ∀ (enabled powered : Bool) (commands : List (Renderer.Command σ)) (frame : FrameBuffer),
      ((Renderer.Session.start enabled powered).run commands).renderer.output = some frame →
      Opaque frame.pixels.toList := by
  refine ⟨fun buffer pixels => ⟨filled_fill buffer pixels, repack_fill_eq_iff buffer pixels⟩,
    fun frame buffer => ⟨filled_fill buffer _, fun hroom => ?_⟩, fun picture => ?_,
    fun bus => ⟨TileAtlas.exists_opaque_picture bus, Background.exists_opaque_picture bus⟩,
    fun renderer bus line hbound => ?_,
    fun enabled powered commands frame => Renderer.Session.opaque_run enabled powered commands⟩
  · have hlength : frame.pixels.toList.length = 23040 := frame.pixels.length_toList
    have hall : frame.pixels.toList.take (buffer.size / 3) = frame.pixels.toList :=
      List.take_of_length_le (by omega)
    have hback := repack_fill_eq_iff buffer frame.pixels.toList
    rwa [hall, hlength, Nat.min_eq_right (by omega)] at hback
  · have hlength : picture.pixels.toList.length = picture.pixels.size := Array.length_toList
    have hsize : (Array.replicate (3 * picture.pixels.size) (0 : UInt8)).size / 3 =
        picture.pixels.size := by
      rw [Array.size_replicate]
      omega
    have hrgb : picture.rgb24 =
        fill (Array.replicate (3 * picture.pixels.size) 0) picture.pixels.toList := by
      rw [Picture.rgb24, encode, hlength]
    have hback := repack_fill_eq_iff (Array.replicate (3 * picture.pixels.size) 0)
      picture.pixels.toList
    have hbytes : picture.rgb24.toList.length = 3 * picture.pixels.size := by
      rw [Array.length_toList, Picture.rgb24, size_encode, hlength]
    refine ⟨by rw [← Array.length_toList, hbytes], hrgb ▸ filled_fill _ _, ?_⟩
    rwa [hsize, hlength, Nat.min_self, ← hrgb, List.take_of_length_le (by omega),
      List.take_of_length_le (by omega)] at hback
  · obtain ⟨frame, hframe⟩ := Option.isSome_iff_exists.mp hbound
    exact Renderer.leavesOpaque hframe bus line

/-- Three pixels written to eight bytes: there is room for two, the second of which is not
opaque and so is not given back, and the last two bytes stay as they were.  A frame in which a
line was drawn is given back by a buffer that is too long for it. -/
theorem fill_holds_channels_short :
    let buffer : Array UInt8 := #[1, 2, 3, 4, 5, 6, 7, 8]
    let pixels : List UInt32 := [0xFF0FBC9B, 0x12345678, 0xFF30BBAA]
    let mem := FlatMemory.zero
    let long : Array UInt8 := Array.replicate 69122 0x55
    ((fill buffer pixels)[1]? = some 0xBC ∧ (fill buffer pixels)[3]? = some 0x78 ∧
      (fill buffer pixels)[7]? = some 8 ∧
      repack ((fill buffer pixels).toList.take 6) ≠ [0xFF0FBC9B, 0x12345678]) ∧
    ∃ frame, ((Renderer.Session.start true true).run
        [.bind, .draw mem 7]).renderer.output = some frame ∧
      repack ((frame.fillRgb24 long).toList.take 69120) = frame.pixels.toList := by
  intro buffer pixels mem long
  have hlong : 69120 ≤ long.size := by simp [long]
  clear_value long mem
  obtain ⟨hfill, hframes, -, -, -, hsession⟩ := fill_holds_channels (σ := FlatMemory)
  refine ⟨?_, ?_⟩
  · obtain ⟨hfilled, hback⟩ := hfill buffer pixels
    obtain ⟨first, hfirst, hfirstBytes⟩ := hfilled.byte 0 (by decide)
    obtain ⟨second, hsecond, hsecondBytes⟩ := hfilled.byte 1 (by decide)
    obtain rfl : 0xFF0FBC9B = first := Option.some.inj hfirst
    obtain rfl : 0x12345678 = second := Option.some.inj hsecond
    refine ⟨hfirstBytes 1 (by decide), hsecondBytes 0 (by decide), hfilled.rest 7 (by decide), ?_⟩
    have hroom : 3 * min (buffer.size / 3) pixels.length = 6 := by simp [buffer, pixels]
    have htaken : pixels.take (buffer.size / 3) = [0xFF0FBC9B, 0x12345678] := by
      simp [buffer, pixels]
    rw [hroom, htaken] at hback
    intro hsame
    have halpha := hback.mp hsame 0x12345678 (by simp)
    exact absurd halpha (by decide)
  · let first : Renderer FrameBuffer := { enabled := true, powered := true, output := some .blank }
    obtain ⟨drawn, hdrawn, -, hdraw⟩ :=
      (Renderer.drawRules first mem 7).drawn rfl rfl (by decide) _ rfl
    have hbind : Renderer.perform { enabled := true, powered := true }
      (.bind : Renderer.Command FlatMemory) = (first, .bound) := rfl
    have hrun : ((Renderer.Session.start true true).run [.bind, .draw mem 7]).renderer = drawn := by
      rw [Renderer.Session.start, Renderer.Session.run_cons hbind, Renderer.Session.run_cons hdraw]
      rfl
    obtain ⟨frame, hframe⟩ : ∃ frame, drawn.output = some frame :=
      ⟨_, congrArg Renderer.output hdrawn⟩
    rw [← hrun] at hframe
    have hopaque := hsession true true [.bind, .draw mem 7] frame hframe
    exact ⟨frame, hframe, ((hframes frame long).2 hlong).mpr hopaque⟩

end Rgb24

end DmgCore
