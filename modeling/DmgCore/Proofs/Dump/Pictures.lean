import DmgCore.Dump.View
import DmgCore.Proofs.Screen.Rgb24Bytes
import DmgCore.Proofs.Video.AtlasPicture
import DmgCore.Proofs.Video.DrawnFrame

/-!
The pictures made of a snapshot, byte by byte.

* `View.pixel?`: the pixel that a view has in a column and a row;
* `Rendering.Holds`: raw RGB24 of some size with given pixels;
* `View.exists_encode`, `View.exists_renderFrame`: a picture whose size fits, and a screen,
  written out in full;
* `View.exists_render`: every view of every memory can be rendered, without any log record, and
  holds its pixels;
* `View.mem_shades_of_frame`: the screen shows nothing but the four shades.
-/

namespace DmgCore

/-- The four shades of the panel, lightest first. -/
def Color.shades : List Color := [lightest, light, dark, darkest]

/-- No shade looks like a panel without power. -/
lemma Color.channels_ne_screenOff {shade : Color} (h : shade ∈ shades) :
    [shade.r, shade.g, shade.b] ≠ [screenOff.r, screenOff.g, screenOff.b] := by
  revert shade
  decide

/-- The palette in memory has no colours but the four shades. -/
lemma Palette.exists_shade {σ : Type} [Bus σ] (bus : σ) (raw : ℕ) :
    ∃ shade ∈ Color.shades, colorOf bus raw = shade.pack := by
  have h : ∀ i : Fin 4, ∃ shade ∈ Color.shades, panelColors[i.val] = shade.pack := by decide
  exact h ⟨_, Nat.mod_lt _ (by decide)⟩

/-- A frame without power in which a renderer that is on has drawn one line. -/
def Renderer.drawnLine? {σ : Type} [Bus σ] (bus : σ) (line : UInt8) : Option FrameBuffer :=
  match ({ powered := true, output := some .blank } : Renderer FrameBuffer).drawScanline bus
    line with
  | .ok drawn => drawn.value.output
  | .error _ => none

namespace View

/-- The columns of a view. -/
def width : View → ℕ
  | tiles => 128
  | background => 256
  | frame => 160

/-- The rows of a view. -/
def height : View → ℕ
  | tiles => 192
  | background => 256
  | frame => 144

/-- The pixel in a column and a row of a view: that of the tile atlas, that of the whole
background, or that of the line of the screen. -/
def pixel? (memory : FlatMemory) (x y : ℕ) : View → Option UInt32
  | tiles => (TileAtlas.picture? memory).bind (·.pixel? (UInt64.ofNat x) (UInt64.ofNat y))
  | background => (Background.picture? memory).bind (·.pixel? (UInt64.ofNat x) (UInt64.ofNat y))
  | frame =>
    (Renderer.drawnLine? memory (UInt8.ofNat y)).bind
      (·.pixel? (UInt64.ofNat x) (UInt64.ofNat y))

end View

/-- Raw RGB24 of a size, with the colours of the pixels that a function of column and row
gives. -/
structure Rendering.Holds (rendering : Rendering) (width height : ℕ)
    (pixel? : ℕ → ℕ → Option UInt32) : Prop where
  width_eq : rendering.width = width
  height_eq : rendering.height = height
  size_bytes : rendering.bytes.size = width * height * 3
  byte : ∀ x < width, ∀ y < height, ∃ color : Color, pixel? x y = some color.pack ∧
    ∀ k < 3, rendering.bytes[3 * (y * width + x) + k]? = [color.r, color.g, color.b][k]?

namespace View

/-- A picture with as many pixels as its size says is written out in full. -/
lemma exists_encode {picture? : Option Picture} {picture : Picture} {width height : ℕ}
    (h : picture? = some picture) (hwidth : picture.width.toNat = width)
    (hheight : picture.height.toNat = height) (hsize : picture.pixels.size = width * height)
    (hfits : width * height < UInt64.size) :
    ∃ rendering, encode picture? = .ok (pure rendering) ∧
      rendering.Holds width height fun x y =>
        picture?.bind (·.pixel? (UInt64.ofNat x) (UInt64.ofNat y)) := by
  subst h
  refine ⟨_, rfl, hwidth, hheight, ?_, fun x hx y hy => ?_⟩
  · rw [Picture.rgb24, Rgb24.size_encode, Array.length_toList, hsize, Nat.mul_comm]
  · -- the pixel lies before the end of its row, and the row is one of the picture
    have hplace : y * width + x < picture.pixels.size := by
      have hrow : (y + 1) * width ≤ height * width := Nat.mul_le_mul_right width hy
      rw [hsize, Nat.mul_comm width]
      rw [Nat.succ_mul] at hrow
      omega
    obtain ⟨pixel, hpixel⟩ : ∃ pixel, picture.pixels[y * width + x]? = some pixel :=
      ⟨_, Array.getElem?_eq_getElem hplace⟩
    refine ⟨Color.unpack pixel, ?_, fun k hk => Rgb24.getElem?_encode ?_ hk⟩
    · rw [Option.bind_some, Picture.pixel?_ofNat picture (by rw [hwidth]; omega), hwidth, hpixel,
        Color.pack_unpack]
    · rw [Array.getElem?_toList, hpixel]

/-- The pixel of a line that is drawn by itself. -/
lemma pixel?_frame (memory : FlatMemory) {x y : ℕ} (hx : x < 160) (hy : y < 144) :
    frame.pixel? memory x y = some (Scanline.pixelAt memory (UInt8.ofNat y) x) := by
  have hline : Renderer.drawnLine? memory (UInt8.ofNat y) =
      some (FrameBuffer.blank.setRow y (Scanline.pixels memory (UInt8.ofNat y))) := by
    rw [Renderer.drawnLine?, Renderer.drawScanline_ofNat memory rfl rfl rfl hy]
    rfl
  rw [pixel?, hline, Option.bind_some, FrameBuffer.pixel?_ofNat _ hx hy,
    FrameBuffer.getElem?_setRow _ _ hy hx, if_pos rfl, Scanline.getElem?_pixels _ _ hx]

/-- The pixel of a screen on which all lines are drawn. -/
lemma getElem?_drawLines (memory : FlatMemory) {x y : ℕ} (hx : x < 160) (hy : y < 144) :
    (FrameBuffer.blank.drawLines memory (List.range Screen.height)).pixels.toList[y * 160 + x]? =
      some (Scanline.pixelAt memory (UInt8.ofNat y) x) := by
  have hrow := FrameBuffer.row?_drawLines .blank memory hy (List.mem_range.mpr hy)
  rw [FrameBuffer.row?_eq_rowAt _ hy, Option.some_inj] at hrow
  rw [Vector.getElem?_toList, ← Vector.getElem?_toArray, ← FrameBuffer.getElem?_rowAt _ hy hx,
    hrow, Scanline.getElem?_pixels _ _ hx]

/-- A screen written to a buffer of its size, with the pixels that the screen holds. -/
lemma holds_fillRgb24 {screen : FrameBuffer} {buffer : Array UInt8} {pixel? : ℕ → ℕ → Option UInt32}
    (hbuffer : buffer.size = 160 * 144 * 3) (hpixel : ∀ x < 160, ∀ y < 144, ∃ pixel,
      pixel? x y = some pixel ∧ screen.pixels.toList[y * 160 + x]? = some pixel) :
    Rendering.Holds ⟨160, 144, screen.fillRgb24 buffer⟩ 160 144 pixel? where
  width_eq := rfl
  height_eq := rfl
  size_bytes := by rw [FrameBuffer.fillRgb24, Rgb24.size_fill, hbuffer]
  byte := by
    intro x hx y hy
    obtain ⟨pixel, hshown, hheld⟩ := hpixel x hx y hy
    refine ⟨Color.unpack pixel, by rw [Color.pack_unpack, hshown], fun k hk => ?_⟩
    rw [FrameBuffer.fillRgb24]
    exact Rgb24.getElem?_fill (by omega) hheld hk

/-- The screen drawn line by line, with the pixels of each line by itself. -/
lemma exists_renderFrame (memory : FlatMemory) :
    ∃ rendering, renderFrame memory = .ok (pure rendering) ∧
      rendering.Holds 160 144 fun x y => frame.pixel? memory x y := by
  obtain ⟨next, hscreen, hdraw⟩ := Renderer.drawFrame_of_on
    { powered := true, output := some FrameBuffer.blank } FrameBuffer.blank memory rfl rfl rfl
  refine ⟨⟨Screen.width, Screen.height,
    (FrameBuffer.blank.drawLines memory (List.range Screen.height)).fillRgb24
      (Array.replicate (Screen.width * Screen.height * 3) 0)⟩, ?_, ?_⟩
  · rw [renderFrame, hdraw]
    simp only [Except.mapError, bind, Except.bind, Logged.value_pure, hscreen]
    rfl
  · exact holds_fillRgb24 Array.size_replicate fun x hx y hy =>
      ⟨_, pixel?_frame memory hx hy, getElem?_drawLines memory hx hy⟩

/-- Every view of every memory can be rendered, without any log record. -/
lemma exists_render (view : View) (memory : FlatMemory) :
    ∃ rendering, view.render memory = .ok (pure rendering) ∧
      rendering.Holds view.width view.height fun x y => view.pixel? memory x y := by
  cases view with
  | tiles =>
      have hsize : ((TileAtlas.indices memory).map fun index =>
          panelColors[index.val]).toArray.size = 128 * 192 := by
        rw [List.size_toArray, List.length_map, TileAtlas.length_indices]
      exact exists_encode (TileAtlas.picture?_eq_some memory) rfl rfl hsize (by decide)
  | background =>
      have hsize : ((Background.indices memory).map fun index =>
          Palette.colorOf memory index.val).toArray.size = 256 * 256 := by
        rw [List.size_toArray, List.length_map, Background.length_indices]
      exact exists_encode (Background.picture?_eq_some memory) rfl rfl hsize (by decide)
  | frame => exact exists_renderFrame memory

/-- The screen shows nothing but the four shades. -/
lemma mem_shades_of_frame {memory : FlatMemory} {x y : ℕ} {color : Color} (hx : x < 160)
    (hy : y < 144) (h : frame.pixel? memory x y = some color.pack) : color ∈ Color.shades := by
  obtain ⟨shade, hmem, hshade⟩ := Palette.exists_shade memory (Background.rawAt memory
    (((Bus.read8 memory MemoryMap.scrollX).toNat + x) % 256)
    (((UInt8.ofNat y).toNat + (Bus.read8 memory MemoryMap.scrollY).toNat) % 256))
  have hpack : color.pack = shade.pack := by
    rw [← Option.some_inj, ← h, pixel?_frame memory hx hy, ← hshade]
    rfl
  rw [← Color.unpack_pack color, hpack, Color.unpack_pack]
  exact hmem

end View

end DmgCore
