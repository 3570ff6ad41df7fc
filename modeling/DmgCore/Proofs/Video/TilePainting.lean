import DmgCore.Proofs.Bus.WriteList
import DmgCore.Proofs.Video.PixelDecode

/-!
A row of a tile, painted over a part of an array.

Any palette will do, also one that names shades without a colour; then painting fails just if
one of the eight pixels has such a shade.

* `Tile.rawAt`, `Tile.slotAt`: the colour index of a pixel of a row, from the bytes of memory,
  and its shade under a palette;
* `Tile.mapM_color?_row_eq_none_iff`: when the pixels of a row cannot all be coloured;
* `Tile.IsPainted`: an array that was painted over, and what stands in its places;
* `Tile.paint?_fills_window`: painting succeeds just if the row fits and has colours, and then
  paints its eight places and no other.
-/

namespace DmgCore

/-! ### Lists of values that may be missing -/

section MapM

variable {α β : Type} {f : α → Option β} {items : List α}

/-- All values of a list exist if they are those of some list. -/
lemma mapM_eq_some_iff {values : List β} :
    items.mapM f = some values ↔ items.map f = values.map some := by
  induction items generalizing values with
  | nil => cases values <;> simp
  | cons item items ih => cases values <;> simp [Option.bind_eq_some_iff, ih]

/-- Not all values of a list exist if one of them is missing. -/
lemma mapM_eq_none_iff : items.mapM f = none ↔ ∃ item ∈ items, f item = none := by
  induction items with
  | nil => simp
  | cons item items ih =>
      cases hitem : f item with
      | none => simp [hitem]
      | some value =>
          have hcons : (item :: items).mapM f = (items.mapM f).map (value :: ·) := by
            rw [List.mapM_cons, hitem]
            cases items.mapM f <;> rfl
          rw [hcons, Option.map_eq_none_iff, ih]
          simp [hitem]

end MapM

variable {σ : Type} [Bus σ]

namespace Tile

/-! ### The pixels of a row -/

/-- The colour index in a column of a row of a tile. Addresses are those of the numbers modulo
`65536`, also behind the end of the tile. -/
def rawAt (bus : σ) (addr : UInt16) (y : UInt8) (column : ℕ) : ℕ :=
  let lo := Bus.read8 bus (UInt16.ofNat (addr.toNat + 2 * y.toNat))
  let hi := Bus.read8 bus (UInt16.ofNat (addr.toNat + 2 * y.toNat + 1))
  (lo.toNat.testBit (7 - column)).toNat + 2 * (hi.toNat.testBit (7 - column)).toNat

lemma rawAt_lt (bus : σ) (addr : UInt16) (y : UInt8) (column : ℕ) :
    rawAt bus addr y column < 4 :=
  (colorIndex _ _ column).isLt

/-- The shade that a palette has for a pixel of a row. -/
def slotAt (bus : σ) (addr : UInt16) (y : UInt8) (palette : Palette) (column : ℕ) : UInt8 :=
  palette.shade ⟨rawAt bus addr y column, rawAt_lt bus addr y column⟩

variable {bus : σ} {addr : UInt16} {y : UInt8} {palette : Palette}

/-- The address of a row, as a number. -/
lemma rowAddress_eq (addr : UInt16) (y : UInt8) :
    rowAddress addr y = UInt16.ofNat (addr.toNat + 2 * y.toNat) := by
  rw [rowAddress, UInt16.ofNat_add, UInt16.ofNat_mul, UInt16.ofNat_toNat,
    UInt16.ofNat_uInt8ToNat]
  rfl

/-- A row consists of the colour indices of its eight pixels. -/
lemma row_eq_map (bus : σ) (addr : UInt16) (y : UInt8) :
    row bus addr y = (List.range 8).map fun column =>
      ⟨rawAt bus addr y column, rawAt_lt bus addr y column⟩ := by
  have hnext : UInt16.ofNat (addr.toNat + 2 * y.toNat + 1) = rowAddress addr y + 1 := by
    rw [rowAddress_eq, UInt16.ofNat_add _ 1]
    rfl
  refine List.map_congr_left fun column _ => Fin.ext ?_
  change (colorIndex _ _ column).val = rawAt bus addr y column
  rw [val_colorIndex, rawAt, hnext, ← rowAddress_eq]

/-- The colours of a row, each of which may be missing. -/
lemma map_color?_row (bus : σ) (addr : UInt16) (y : UInt8) (palette : Palette) :
    (row bus addr y).map palette.color? =
      (List.range 8).map fun column => panelColors[(slotAt bus addr y palette column).toNat]? := by
  rw [row_eq_map, List.map_map]
  rfl

/-- A row cannot be coloured if one of its pixels has none of the five shades with a colour. -/
lemma mapM_color?_row_eq_none_iff :
    (row bus addr y).mapM palette.color? = none ↔
      ∃ column < 8, 5 ≤ (slotAt bus addr y palette column).toNat := by
  have hmissing : (∃ index ∈ row bus addr y, palette.color? index = none) ↔
      none ∈ (row bus addr y).map palette.color? := List.mem_map.symm
  rw [mapM_eq_none_iff, hmissing, map_color?_row, List.mem_map]
  simp only [List.mem_range, Vector.getElem?_eq_none_iff]

/-! ### The array that is painted over -/

/-- An array is what painting makes of another one: the eight places from `offset` on hold the
colours of the row, every other place what it held before. -/
structure IsPainted (bus : σ) (addr : UInt16) (y : UInt8) (dest : Array UInt32) (offset : ℕ)
    (palette : Palette) (painted : Array UInt32) : Prop where
  size : painted.size = dest.size
  pixel : ∀ i < 8, painted[offset + i]? = panelColors[(slotAt bus addr y palette i).toNat]?
  other : ∀ j, ¬ (offset ≤ j ∧ j < offset + 8) → painted[j]? = dest[j]?

variable {dest : Array UInt32} {offset : ℕ}

/-- Painting fails just if the row does not fit or cannot be coloured. -/
lemma paint?_eq_none_iff :
    paint? bus addr y dest offset palette = none ↔
      dest.size < offset + 8 ∨ (row bus addr y).mapM palette.color? = none := by
  by_cases hfits : offset + 8 ≤ dest.size
  · rw [paint?, if_pos hfits, Option.map_eq_none_iff, or_iff_right (Nat.not_lt.mpr hfits)]
  · rw [paint?, if_neg hfits]
    exact iff_of_true rfl (Or.inl (Nat.lt_of_not_le hfits))

/-- Painting that succeeds writes the colours of the row. -/
lemma isPainted_of_paint?_eq_some {painted : Array UInt32}
    (h : paint? bus addr y dest offset palette = some painted) :
    IsPainted bus addr y dest offset palette painted := by
  by_cases hfits : offset + 8 ≤ dest.size
  · rw [paint?, if_pos hfits, Option.map_eq_some_iff] at h
    obtain ⟨colors, hcolors, rfl⟩ := h
    rw [mapM_eq_some_iff, map_color?_row] at hcolors
    have hlength : colors.length = 8 := by
      have hsame := congrArg List.length hcolors
      rw [List.length_map, List.length_map, List.length_range] at hsame
      exact hsame.symm
    refine ⟨size_overwrite .., fun i hi => ?_, fun j hj => ?_⟩
    · have hcolor : panelColors[(slotAt bus addr y palette i).toNat]? = colors[i]? := by
        have hplace := congrArg (·[i]?) hcolors
        have hinside : i < colors.length := by omega
        simpa [List.getElem?_range hi, List.getElem?_eq_getElem hinside] using hplace
      rw [getElem?_overwrite _ _ _ _ (by omega), if_pos (by omega), Nat.add_sub_cancel_left,
        hcolor]
    · by_cases hinside : j < dest.size
      · rw [getElem?_overwrite _ _ _ _ hinside, hlength, if_neg hj]
      · rw [Array.getElem?_eq_none (by rw [size_overwrite]; omega),
          Array.getElem?_eq_none (Nat.le_of_not_lt hinside)]
  · rw [paint?, if_neg hfits] at h
    exact absurd h nofun

/-- A palette packed into a byte has one of the four shades for every pixel. -/
lemma toNat_slotAt_ofByte_lt (bus : σ) (addr : UInt16) (y : UInt8) (byte : UInt8) (column : ℕ) :
    (slotAt bus addr y (Palette.ofByte byte) column).toNat < 4 := by
  rw [slotAt, Palette.toNat_shade_ofByte]
  exact Nat.mod_lt _ (by decide)

/-- **Painting fills its window, or fails.**  A row of any number of a tile at any address,
painted from some place of an array on with any palette: it fails just if eight places from
there on are not all in the array, or if one of the eight pixels has a shade of `5` or more.
If it succeeds these places hold the colours of the pixels and nothing else has changed.  With
a palette packed into a byte, only the places decide. -/
theorem paint?_fills_window (bus : σ) (addr : UInt16) (y : UInt8) (dest : Array UInt32)
    (offset : ℕ) (palette : Palette) (byte : UInt8) :
    (paint? bus addr y dest offset palette = none ↔
      dest.size < offset + 8 ∨ ∃ i < 8, 5 ≤ (slotAt bus addr y palette i).toNat) ∧
    (∀ painted, paint? bus addr y dest offset palette = some painted →
      IsPainted bus addr y dest offset palette painted) ∧
    (∀ i, (slotAt bus addr y (Palette.ofByte byte) i).toNat < 4) ∧
    (paint? bus addr y dest offset (Palette.ofByte byte) = none ↔ dest.size < offset + 8) := by
  have hshade := toNat_slotAt_ofByte_lt bus addr y byte
  refine ⟨?_, fun painted => isPainted_of_paint?_eq_some, hshade, ?_⟩
  · rw [paint?_eq_none_iff, mapM_color?_row_eq_none_iff]
  · rw [paint?_eq_none_iff, mapM_color?_row_eq_none_iff, or_iff_left]
    rintro ⟨i, -, hslot⟩
    have hlt := hshade i
    omega

/-- The ninth row of a tile that begins shortly before the end of memory, so that its first byte
is the last of memory and its second the first, under a palette with two shades that no pixel
of it has: it is painted where it fits and not where one place is missing. -/
theorem paint?_fills_window_wrapped :
    let mem := Bus.write8 (Bus.write8 FlatMemory.zero 0xFFFF 0xF0) 0 0xF0
    let palette : Palette := ⟨#v[0, 9, 200, 4]⟩
    (∃ painted, paint? mem 0xFFEF 8 (Array.replicate 10 7) 1 palette = some painted ∧
      painted[1]? = some blankPixel ∧ painted[8]? = panelColors[0]? ∧ painted[9]? = some 7) ∧
    paint? mem 0xFFEF 8 (Array.replicate 10 7) 3 palette = none := by
  intro mem palette
  have hslot : ∀ i, slotAt mem 0xFFEF 8 palette i = palette.shade (colorIndex 0xF0 0xF0 i) := by
    have hlow : Bus.read8 mem (UInt16.ofNat ((0xFFEF : UInt16).toNat + 2 * (8 : UInt8).toNat)) =
        0xF0 := by
      rw [FlatMemory.read8_write8, FlatMemory.read8_write8]
      decide
    have hhigh : Bus.read8 mem
        (UInt16.ofNat ((0xFFEF : UInt16).toNat + 2 * (8 : UInt8).toNat + 1)) = 0xF0 := by
      rw [FlatMemory.read8_write8]
      decide
    refine fun i => congrArg palette.shade (Fin.ext ?_)
    change rawAt mem 0xFFEF 8 i = (colorIndex 0xF0 0xF0 i).val
    rw [rawAt, hlow, hhigh, val_colorIndex]
  have hcolored : ¬ ∃ i < 8, 5 ≤ (slotAt mem 0xFFEF 8 palette i).toNat := by
    simp only [hslot]
    decide
  obtain ⟨hfits, hpainted, -⟩ :=
    paint?_fills_window mem 0xFFEF 8 (Array.replicate 10 7) 1 palette 0
  obtain ⟨hsticksOut, -⟩ :=
    paint?_fills_window mem 0xFFEF 8 (Array.replicate 10 7) 3 palette 0
  refine ⟨?_, hsticksOut.mpr (Or.inl (by decide))⟩
  cases hpaint : paint? mem 0xFFEF 8 (Array.replicate 10 7) 1 palette with
  | none => exact absurd (hfits.mp hpaint) (not_or.mpr ⟨by decide, hcolored⟩)
  | some painted =>
      have hrow := hpainted painted hpaint
      refine ⟨painted, rfl, ?_, ?_, (hrow.other 9 (by decide)).trans rfl⟩
      · rw [hrow.pixel 0 (by decide), hslot]
        decide
      · rw [hrow.pixel 7 (by decide), hslot]
        decide

end Tile

end DmgCore
