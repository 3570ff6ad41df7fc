import Mathlib.Data.List.Count
import Mathlib.Data.List.Nodup
import DmgCore.Proofs.ByteBits
import DmgCore.Proofs.Video.AtlasPicture

/-!
The tile atlas as a picture from which tile memory can be read back.

* `TileAtlas.paintLines?`: lines of tiles painted over an array, one after the other, with
  the painter of single tiles (`Tile.paint?`), in whatever order;
* `TileAtlas.lines`: the `3072` lines of all tiles, tile by tile, and
  `TileAtlas.countP_covers_lines`: each place of the atlas lies in exactly one of them;
* `TileAtlas.paintLines?_lines`: painting them never fails and gives the picture of the
  atlas, whatever the array held before;
* `TileAtlas.read8_eq_of_rawAt_eq`: the colour indices of all pixels determine every byte
  of tile memory;
* `TileAtlas.picture?_eq_iff`: so two memories have the same atlas just if they hold the
  same tiles.
-/

namespace DmgCore

variable {σ σ' : Type} [Bus σ] [Bus σ']

/-- Painting a row of a tile that fits, with each colour index as its own shade. -/
lemma Tile.paint?_identity (bus : σ) (addr : UInt16) (y : UInt8) (dest : Array UInt32)
    (offset : ℕ) (hfits : offset + 8 ≤ dest.size) :
    Tile.paint? bus addr y dest offset Palette.identity =
      some (overwrite dest offset ((Tile.row bus addr y).filterMap Palette.identity.color?)) := by
  rw [Tile.paint?, if_pos hfits, Palette.mapM_color?_identity, Option.map_some,
    Palette.filterMap_color?_identity]

namespace TileAtlas

/-! ### The lines of the tiles -/

/-- One of the eight lines of a tile. -/
structure TileLine where
  tile : ℕ
  line : ℕ
  deriving DecidableEq

namespace TileLine

/-- The line is one of a tile that the atlas shows. -/
structure Shown (l : TileLine) : Prop where
  tile_lt : l.tile < 384
  line_lt : l.line < 8

/-- The place in the atlas where the eight pixels of a line begin. -/
def start (l : TileLine) : ℕ := (l.tile / 16 * 8 + l.line) * 128 + l.tile % 16 * 8

/-- The line has one of its eight pixels at a place of the atlas. -/
def Covers (l : TileLine) (place : ℕ) : Prop := l.start ≤ place ∧ place < l.start + 8

instance (l : TileLine) (place : ℕ) : Decidable (l.Covers place) :=
  inferInstanceAs (Decidable (_ ∧ _))

/-- The line that has a pixel at a place of the atlas. -/
def ofPlace (place : ℕ) : TileLine := ⟨16 * (place / 128 / 8) + place % 128 / 8, place / 128 % 8⟩

lemma shown_ofPlace {place : ℕ} (hplace : place < 24576) : (TileLine.ofPlace place).Shown := by
  constructor
  · show 16 * (place / 128 / 8) + place % 128 / 8 < 384
    omega
  · show place / 128 % 8 < 8
    omega

lemma Shown.start_add_le {l : TileLine} (h : l.Shown) : l.start + 8 ≤ 24576 := by
  have htile := h.tile_lt
  have hline := h.line_lt
  rw [start]
  omega

/-- One line covers a place, and no other does. -/
lemma Shown.covers_iff {l : TileLine} (h : l.Shown) {place : ℕ} :
    l.Covers place ↔ l = TileLine.ofPlace place := by
  obtain ⟨tile, line⟩ := l
  have htile : tile < 384 := h.tile_lt
  have hline : line < 8 := h.line_lt
  have hstart : start ⟨tile, line⟩ = (tile / 16 * 8 + line) * 128 + tile % 16 * 8 := rfl
  rw [Covers, hstart, ofPlace, mk.injEq]
  constructor
  · rintro ⟨hfrom, hto⟩
    omega
  · rintro ⟨rfl, rfl⟩
    omega

end TileLine

/-- The lines of all tiles, tile by tile and from the top of each. -/
def lines : List TileLine :=
  (List.range 384).flatMap fun tile => (List.range 8).map fun line => ⟨tile, line⟩

lemma mem_lines {l : TileLine} : l ∈ lines ↔ l.Shown := by
  obtain ⟨tile, line⟩ := l
  simp only [lines, List.mem_flatMap, List.mem_map, List.mem_range, TileLine.mk.injEq]
  constructor
  · rintro ⟨_, htile, _, hline, rfl, rfl⟩
    exact ⟨htile, hline⟩
  · rintro ⟨htile, hline⟩
    exact ⟨tile, htile, line, hline, rfl, rfl⟩

lemma nodup_lines : lines.Nodup := by
  refine List.nodup_flatMap.mpr ⟨fun tile _ => ?_, ?_⟩
  · refine List.nodup_range.map fun line other h => ?_
    exact (TileLine.mk.inj h).2
  · refine List.nodup_range.imp fun {tile other} hne => ?_
    rw [Function.onFun_apply, List.disjoint_left]
    intro l hl hother
    obtain ⟨_, -, rfl⟩ := List.mem_map.mp hl
    obtain ⟨_, -, hsame⟩ := List.mem_map.mp hother
    exact hne (TileLine.mk.inj hsame).1.symm

/-- Each place of the atlas lies in exactly one line of a tile. -/
lemma countP_covers_lines {place : ℕ} (hplace : place < 24576) :
    lines.countP (fun l => l.Covers place) = 1 := by
  have hcount : lines.countP (fun l => l.Covers place) = lines.count (TileLine.ofPlace place) := by
    rw [List.count]
    refine List.countP_congr fun l hl => ?_
    rw [decide_eq_true_eq, beq_iff_eq]
    exact (mem_lines.mp hl).covers_iff
  rw [hcount]
  exact List.count_eq_one_of_mem nodup_lines (mem_lines.mpr (TileLine.shown_ofPlace hplace))

/-! ### The atlas, painted line by line -/

/-- Paints lines of tiles over an array, one after the other. -/
def paintLines? (bus : σ) (painted : Array UInt32) : List TileLine → Option (Array UInt32)
  | [] => some painted
  | l :: rest => do
    let next ← Tile.paint? bus (tileAddress l.tile) (UInt8.ofNat l.line) painted l.start
      Palette.identity
    paintLines? bus next rest

/-- The pixels of the atlas, in the order in which a picture holds them. -/
def pixels (bus : σ) : List UInt32 := (indices bus).filterMap Palette.identity.color?

lemma length_pixels (bus : σ) : (pixels bus).length = 24576 := by
  rw [pixels, Palette.filterMap_color?_identity, List.length_map, length_indices]

/-- What an array looks like over which some lines were painted. -/
structure Painted (bus : σ) (done : List TileLine) (painted : Array UInt32) : Prop where
  size : painted.size = 24576
  pixel : ∀ l ∈ done, ∀ place < 24576, l.Covers place → painted[place]? = (pixels bus)[place]?

/-- The pixels of a line as they stand in the atlas. -/
lemma getElem?_pixels_of_covers (bus : σ) {l : TileLine} {place : ℕ} (hl : l.Shown)
    (hcovers : l.Covers place) :
    (pixels bus)[place]? =
      ((Tile.row bus (tileAddress l.tile) (UInt8.ofNat l.line)).filterMap
        Palette.identity.color?)[place - l.start]? := by
  have hlast := hl.start_add_le
  have hplace : place / 128 * 128 + place % 128 = place := Nat.div_add_mod' place 128
  have hcolumn : place % 128 % 8 = place - l.start := by
    rw [TileLine.Covers, TileLine.start] at hcovers
    rw [TileLine.start]
    omega
  have hrow := getElem?_indices_eq_row bus (x := place % 128) (y := place / 128) (by omega)
    (by have hto := hcovers.2; omega)
  rw [hplace, hcolumn] at hrow
  obtain rfl := hl.covers_iff.mp hcovers
  rw [pixels, Palette.filterMap_color?_identity, Palette.filterMap_color?_identity,
    List.getElem?_map, List.getElem?_map, hrow]
  rfl

/-- Painting one more line keeps those painted before: where they meet, they agree. -/
lemma Painted.concat {bus : σ} {done : List TileLine} {painted : Array UInt32} {l : TileLine}
    (h : Painted bus done painted) (hl : l.Shown) :
    ∃ next, Tile.paint? bus (tileAddress l.tile) (UInt8.ofNat l.line) painted l.start
        Palette.identity = some next ∧ Painted bus (done ++ [l]) next := by
  have hlast := hl.start_add_le
  refine ⟨_, Tile.paint?_identity _ _ _ _ _ (by rw [h.size]; exact hlast), ?_, ?_⟩
  · rw [size_overwrite, h.size]
  · intro other hother place hplace hcovers
    have hlength : ((Tile.row bus (tileAddress l.tile) (UInt8.ofNat l.line)).filterMap
        Palette.identity.color?).length = 8 := by
      rw [Palette.filterMap_color?_identity, List.length_map, Tile.length_row]
    rw [getElem?_overwrite _ _ _ _ (by rw [h.size]; exact hplace), hlength]
    by_cases hnew : l.Covers place
    · rw [getElem?_pixels_of_covers bus hl hnew]
      exact if_pos hnew
    · refine (if_neg hnew).trans ?_
      rcases List.mem_append.mp hother with hdone | hlast
      · exact h.pixel other hdone place hplace hcovers
      · rw [List.mem_singleton.mp hlast] at hcovers
        exact absurd hcovers hnew

/-- Painting lines that the atlas shows never fails, in whatever order. -/
lemma exists_paintLines? {bus : σ} {done rest : List TileLine} {painted : Array UInt32}
    (h : Painted bus done painted) (hrest : ∀ l ∈ rest, l.Shown) :
    ∃ result, paintLines? bus painted rest = some result ∧ Painted bus (done ++ rest) result := by
  induction rest generalizing done painted with
  | nil => exact ⟨painted, rfl, (List.append_nil done).symm ▸ h⟩
  | cons l rest ih =>
      obtain ⟨hl, hlater⟩ := List.forall_mem_cons.mp hrest
      obtain ⟨next, hpaint, hnext⟩ := h.concat hl
      obtain ⟨result, hresult, hall⟩ := ih hnext hlater
      rw [List.append_assoc] at hall
      refine ⟨result, ?_, hall⟩
      rw [paintLines?, hpaint]
      exact hresult

/-- Painting the lines of all tiles gives the pixels of the atlas, whatever the array held
before. -/
lemma paintLines?_lines (bus : σ) {dest : Array UInt32} (hsize : dest.size = 24576) :
    paintLines? bus dest lines = some (pixels bus).toArray := by
  have hstart : Painted bus [] dest := ⟨hsize, fun l hl => absurd hl List.not_mem_nil⟩
  obtain ⟨result, hresult, hall⟩ := exists_paintLines? hstart fun l hl => mem_lines.mp hl
  have hlist : result.toList = pixels bus := by
    refine List.ext_getElem? fun place => ?_
    rw [Array.getElem?_toList]
    by_cases hplace : place < 24576
    · have hshown := TileLine.shown_ofPlace hplace
      exact hall.pixel _ (mem_lines.mpr hshown) place hplace (hshown.covers_iff.mpr rfl)
    · rw [Array.getElem?_eq_none (by rw [hall.size]; omega),
        List.getElem?_eq_none (by rw [length_pixels]; omega)]
  rw [hresult, ← hlist]

/-! ### Tile memory, read back -/

/-- Two bits are determined by the colour index that they make. -/
lemma bits_eq_of_raw_eq {lo hi lo' hi' : Bool}
    (h : lo.toNat + 2 * hi.toNat = lo'.toNat + 2 * hi'.toNat) : lo = lo' ∧ hi = hi' := by
  cases lo <;> cases hi <;> cases lo' <;> cases hi' <;> simp at h ⊢

/-- The colour indices of all pixels of the atlas determine every byte of tile memory. -/
lemma read8_eq_of_rawAt_eq {bus : σ} {bus' : σ'}
    (h : ∀ x y, x < 128 → y < 192 → rawAt bus x y = rawAt bus' x y) {addr : UInt16}
    (hfrom : 0x8000 ≤ addr.toNat) (hto : addr.toNat < 0x9800) :
    Bus.read8 bus addr = Bus.read8 bus' addr := by
  -- the byte lies at `offset`, in line `offset / 2 % 8` of tile `offset / 16`
  obtain ⟨offset, hoffset⟩ := Nat.exists_eq_add_of_le hfrom
  have haddr : addr = UInt16.ofNat (0x8000 + offset) := by
    rw [← hoffset, UInt16.ofNat_toNat]
  have hbits : ∀ i < 8,
      (Bus.read8 bus (UInt16.ofNat (0x8000 + 2 * (offset / 2)))).toNat.testBit i =
          (Bus.read8 bus' (UInt16.ofNat (0x8000 + 2 * (offset / 2)))).toNat.testBit i ∧
        (Bus.read8 bus (UInt16.ofNat (0x8000 + 2 * (offset / 2) + 1))).toNat.testBit i =
          (Bus.read8 bus' (UInt16.ofNat (0x8000 + 2 * (offset / 2) + 1))).toNat.testBit i := by
    intro i hi
    set x := 8 * (offset / 16 % 16) + (7 - i) with hx
    set y := 8 * (offset / 16 / 16) + offset / 2 % 8 with hy
    have hplace : byteAddressAt x y = 0x8000 + 2 * (offset / 2) := by
      rw [byteAddressAt]
      omega
    have hcolumn : 7 - x % 8 = i := by omega
    have hraw := h x y (by omega) (by omega)
    rw [rawAt, rawAt, hplace, hcolumn] at hraw
    exact bits_eq_of_raw_eq hraw
  rcases Nat.mod_two_eq_zero_or_one offset with hlow | hhigh
  · have heven : 0x8000 + offset = 0x8000 + 2 * (offset / 2) := by omega
    rw [haddr, heven]
    exact Byte.eq_of_testBit_eq fun i hi => (hbits i hi).1
  · have hodd : 0x8000 + offset = 0x8000 + 2 * (offset / 2) + 1 := by omega
    rw [haddr, hodd]
    exact Byte.eq_of_testBit_eq fun i hi => (hbits i hi).2

/-- The colour index of a pixel comes from two bytes of tile memory. -/
lemma rawAt_eq_of_read8_eq {bus : σ} {bus' : σ'}
    (h : ∀ addr : UInt16, 0x8000 ≤ addr.toNat → addr.toNat < 0x9800 →
      Bus.read8 bus addr = Bus.read8 bus' addr) {x y : ℕ} (hx : x < 128) (hy : y < 192) :
    rawAt bus x y = rawAt bus' x y := by
  have hplace : byteAddressAt x y + 1 < 0x9800 := by
    rw [byteAddressAt]
    omega
  have hfirst : 0x8000 ≤ byteAddressAt x y := by
    rw [byteAddressAt]
    omega
  have hread : ∀ n, 0x8000 ≤ n → n < 0x9800 →
      Bus.read8 bus (UInt16.ofNat n) = Bus.read8 bus' (UInt16.ofNat n) := by
    intro n hlow hhigh
    have hn : (UInt16.ofNat n).toNat = n := Word.toNat_ofNat_of_lt (by omega)
    exact h _ (by rw [hn]; exact hlow) (by rw [hn]; exact hhigh)
  rw [rawAt, rawAt, hread _ hfirst (by omega), hread _ (by omega) hplace]

/-- Two memories with the same colour indices have the same list of them. -/
lemma indices_eq_of_rawAt_eq {bus : σ} {bus' : σ'}
    (h : ∀ x y, x < 128 → y < 192 → rawAt bus x y = rawAt bus' x y) :
    indices bus = indices bus' := by
  refine List.ext_getElem? fun place => ?_
  by_cases hplace : place < 24576
  · have hx : place % 128 < 128 := Nat.mod_lt _ (by decide)
    have hy : place / 128 < 192 := by omega
    have hval : ((indices bus)[place]?).map Fin.val = ((indices bus')[place]?).map Fin.val := by
      rw [← Nat.div_add_mod' place 128, getElem?_indices bus hx hy, getElem?_indices bus' hx hy,
        h _ _ hx hy]
    exact Option.map_injective (fun _ _ => Fin.ext) hval
  · rw [List.getElem?_eq_none (by rw [length_indices]; omega),
      List.getElem?_eq_none (by rw [length_indices]; omega)]

/-- The picture of the atlas determines the colour index of each of its pixels. -/
lemma rawAt_eq_of_picture?_eq {bus : σ} {bus' : σ'} (h : picture? bus = picture? bus')
    {x y : ℕ} (hx : x < 128) (hy : y < 192) : rawAt bus x y = rawAt bus' x y := by
  obtain ⟨atlas, hatlas, hshade⟩ := exists_picture bus
  obtain ⟨atlas', hatlas', hshade'⟩ := exists_picture bus'
  obtain rfl : atlas = atlas' := Option.some.inj (hatlas.symm.trans (h.trans hatlas'))
  obtain ⟨raw, hraw, hshown⟩ := hshade x y hx hy
  obtain ⟨raw', hraw', hshown'⟩ := hshade' x y hx hy
  have hsame : raw = raw' := panelColors_inj (Option.some.inj (hshown.symm.trans hshown'))
  rw [← hraw, ← hraw', hsame]

/-- **The tile atlas is a lossless picture of tile memory.**  The atlas exists and measures
`128` by `192` pixels; the pixel in column `x` and row `y` is the shade of the colour index
that one bit of each of two bytes makes.  The `3072` lines that are painted tile by tile
meet each place exactly once, and give the picture whatever was there before.  And two
memories have the same atlas just if they hold the same bytes from `0x8000` to `0x97FF`. -/
theorem picture?_eq_iff (bus : σ) (bus' : σ') :
    (∃ atlas : Picture, picture? bus = some atlas ∧
      atlas.width = 128 ∧ atlas.height = 192 ∧ atlas.pixels.size = 128 * 192 ∧
      (∀ x y, x < 128 → y < 192 → ∃ raw : Fin 4,
        raw.val =
          ((Bus.read8 bus (UInt16.ofNat
            (0x8000 + 16 * (16 * (y / 8) + x / 8) + 2 * (y % 8)))).toNat.testBit
              (7 - x % 8)).toNat +
          2 * ((Bus.read8 bus (UInt16.ofNat
            (0x8000 + 16 * (16 * (y / 8) + x / 8) + 2 * (y % 8) + 1))).toNat.testBit
              (7 - x % 8)).toNat ∧
        atlas.pixel? (UInt64.ofNat x) (UInt64.ofNat y) = panelColors[raw.val]?) ∧
      ∀ dest : Array UInt32, dest.size = 128 * 192 →
        paintLines? bus dest lines = some atlas.pixels) ∧
    lines.length = 3072 ∧
    (∀ place < 128 * 192, lines.countP (fun l => l.Covers place) = 1) ∧
    (picture? bus = picture? bus' ↔ ∀ addr : UInt16, 0x8000 ≤ addr.toNat →
      addr.toNat < 0x9800 → Bus.read8 bus addr = Bus.read8 bus' addr) := by
  refine ⟨?_, ?_, fun place hplace => countP_covers_lines hplace, ?_, ?_⟩
  · obtain ⟨atlas, hatlas, hshade⟩ := exists_picture bus
    have hpicture := Option.some.inj (hatlas.symm.trans (picture?_eq_some bus))
    rw [← Palette.filterMap_color?_identity] at hpicture
    refine ⟨atlas, hatlas, ?_, ?_, ?_, fun x y hx hy => ?_, fun dest hsize => ?_⟩
    · rw [hpicture]
    · rw [hpicture]
    · rw [hpicture]
      exact length_pixels bus
    · obtain ⟨raw, hraw, hshown⟩ := hshade x y hx hy
      exact ⟨raw, hraw, hshown.trans (Vector.getElem?_eq_getElem _).symm⟩
    · rw [paintLines?_lines bus hsize, hpicture]
      rfl
  · rw [lines, length_flatMap_range _ 384 fun tile => (?_ : _ = 8)]
    rw [List.length_map, List.length_range]
  · intro h addr hfrom hto
    exact read8_eq_of_rawAt_eq (fun x y hx hy => rawAt_eq_of_picture?_eq h hx hy) hfrom hto
  · intro h
    have hindices := indices_eq_of_rawAt_eq fun x y hx hy => rawAt_eq_of_read8_eq h hx hy
    rw [picture?_eq_some, picture?_eq_some, hindices]

/-- The last byte of tile memory is seen in the atlas; LCDC, the palette and the first byte
behind tile memory are not. -/
theorem picture?_eq_iff_last_byte :
    let mem := Bus.write8 FlatMemory.zero 0x97FE 0x3C
    let registers := Bus.write8 (Bus.write8 mem MemoryMap.lcdControl 0x18)
      MemoryMap.backgroundPalette 0xE4
    picture? mem = picture? (Bus.write8 registers 0x9800 0xFF) ∧
      picture? mem ≠ picture? (Bus.write8 registers 0x97FF 0x01) := by
  intro mem registers
  have hbytes : ∀ addr value other, Bus.read8 (Bus.write8 registers addr value) other =
      if other = addr then value else if other = MemoryMap.backgroundPalette then 0xE4
      else if other = MemoryMap.lcdControl then 0x18 else Bus.read8 mem other := by
    intro addr value other
    simp only [registers, FlatMemory.read8_write8]
  constructor
  · refine (picture?_eq_iff mem _).2.2.2.mpr fun addr _ hto => ?_
    have hne : ∀ other : UInt16, 0x9800 ≤ other.toNat → addr ≠ other := by
      rintro other hother rfl
      omega
    rw [hbytes, if_neg (hne _ (by decide)), if_neg (hne _ (by decide)),
      if_neg (hne _ (by decide))]
  · intro h
    have hsame := (picture?_eq_iff mem _).2.2.2.mp h 0x97FF (by decide) (by decide)
    rw [hbytes, if_pos rfl] at hsame
    have hbefore : Bus.read8 mem 0x97FF = 0 := by
      rw [FlatMemory.read8_write8_of_ne _ (by decide), FlatMemory.read8_zero]
    exact absurd (hbefore.symm.trans hsame) (by decide)

end TileAtlas

end DmgCore
