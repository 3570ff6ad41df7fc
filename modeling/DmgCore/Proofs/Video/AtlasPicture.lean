import DmgCore.Proofs.Bus.WriteList
import DmgCore.Proofs.Video.BackgroundPicture
import DmgCore.Video.TileAtlas

/-!
The picture of the tile atlas, and the background as a recoloured copy of its tiles.

* `TileAtlas.rawAt`: the colour index of the atlas pixel in a column and a row, from the
  bytes of memory;
* `TileAtlas.exists_picture`: the atlas exists and each of its pixels is the shade of
  that colour index;
* `TileAtlas.cellTile`: the number in the atlas of the tile in a cell of the map, in
  either mode of LCDC;
* `TileAtlas.background_recolors_atlas`: the picture of the whole background shows in each
  cell that tile of the atlas, with the palette in BGP applied to its shades.
-/

namespace DmgCore

variable {σ : Type} [Bus σ]

/-- Each shade has a colour of its own. -/
lemma panelColors_inj {shade other : Fin 4}
    (h : panelColors[shade.val] = panelColors[other.val]) : shade = other := by
  revert shade other
  decide

namespace Palette

lemma color?_identity : identity.color? = fun index => some panelColors[index.val] := by
  funext index
  revert index
  decide

/-- With the palette in which each colour index is its own shade, colouring any list of
colour indices succeeds. -/
lemma mapM_color?_identity (indices : List ColorIndex) :
    indices.mapM identity.color? = some (indices.map fun index => panelColors[index.val]) := by
  rw [color?_identity]
  exact List.mapM_pure

/-- The shades of a list of colour indices, each its own. -/
lemma filterMap_color?_identity (indices : List ColorIndex) :
    indices.filterMap identity.color? = indices.map fun index => panelColors[index.val] := by
  rw [color?_identity]
  exact congrFun List.filterMap_eq_map indices

end Palette

namespace TileAtlas

/-! ### The pixels of the atlas -/

/-- Where the two bytes begin that hold the atlas pixel in column `x` and row `y`. -/
def byteAddressAt (x y : ℕ) : ℕ := 0x8000 + 16 * (16 * (y / 8) + x / 8) + 2 * (y % 8)

/-- The colour index of the atlas pixel in column `x` and row `y`. -/
def rawAt (bus : σ) (x y : ℕ) : ℕ :=
  let lo := Bus.read8 bus (UInt16.ofNat (byteAddressAt x y))
  let hi := Bus.read8 bus (UInt16.ofNat (byteAddressAt x y + 1))
  (lo.toNat.testBit (7 - x % 8)).toNat + 2 * (hi.toNat.testBit (7 - x % 8)).toNat

/-- The row of a tile of the atlas begins where its pixels are said to lie. -/
lemma rowAddress_tileAddress (x y : ℕ) :
    Tile.rowAddress (tileAddress (16 * (y / 8) + x / 8)) (UInt8.ofNat (y % 8)) =
      UInt16.ofNat (byteAddressAt x y) := by
  have hline : (UInt8.ofNat (y % 8)).toNat = y % 8 := by
    rw [UInt8.toNat_ofNat']
    omega
  have htwo : (2 * (UInt8.ofNat (y % 8)).toUInt16 : UInt16) = UInt16.ofNat (2 * (y % 8)) := by
    rw [UInt16.ofNat_mul, ← UInt16.ofNat_uInt8ToNat, hline]
    rfl
  rw [Tile.rowAddress, tileAddress, htwo, ← UInt16.ofNat_add]
  rfl

/-- A place of the atlas lies in the row of a tile that the quotients of its coordinates
give. -/
lemma getElem?_indices_eq_row (bus : σ) {x y : ℕ} (hx : x < 128) (hy : y < 192) :
    (indices bus)[y * 128 + x]? =
      (Tile.row bus (tileAddress (16 * (y / 8) + x / 8)) (UInt8.ofNat (y % 8)))[x % 8]? :=
  getElem?_flatMap_tiles
    (fun row line column => Tile.row bus (tileAddress (16 * row + column)) (UInt8.ofNat line))
    24 16 (fun _ _ _ => Tile.length_row ..) hx hy

lemma length_indices (bus : σ) : (indices bus).length = 24576 :=
  length_flatMap_range _ 24 fun _ => length_flatMap_range _ 8 fun _ =>
    length_flatMap_range _ 16 fun _ => Tile.length_row ..

/-- The colour index in a column and a row of the atlas. -/
lemma getElem?_indices (bus : σ) {x y : ℕ} (hx : x < 128) (hy : y < 192) :
    ((indices bus)[y * 128 + x]?).map Fin.val = some (rawAt bus x y) := by
  rw [getElem?_indices_eq_row bus hx hy, Tile.getElem?_row _ _ _ (by omega),
    rowAddress_tileAddress, Option.map_some, Tile.val_colorIndex, rawAt, UInt16.ofNat_add]
  rfl

/-- The atlas has a picture, since every shade has a colour. -/
lemma picture?_eq_some (bus : σ) :
    picture? bus = some ⟨128, 192,
      ((indices bus).map fun index => panelColors[index.val]).toArray⟩ := by
  rw [picture?, render?, Palette.mapM_color?_identity]
  rfl

/-- The atlas shows in each place the shade of the colour index there. -/
lemma exists_picture (bus : σ) :
    ∃ atlas, picture? bus = some atlas ∧ ∀ x y, x < 128 → y < 192 →
      ∃ raw : Fin 4, raw.val = rawAt bus x y ∧
        atlas.pixel? (UInt64.ofNat x) (UInt64.ofNat y) = some panelColors[raw.val] := by
  refine ⟨_, picture?_eq_some bus, fun x y hx hy => ?_⟩
  have hfits : y * 128 + x < UInt64.size := by
    rw [UInt64.size]
    omega
  obtain ⟨raw, hindex, hraw⟩ := Option.map_eq_some_iff.mp (getElem?_indices bus hx hy)
  exact ⟨raw, hraw, Picture.pixel?_map _ hfits hindex⟩

/-! ### The tile in a cell of the map -/

/-- The number in the atlas of the tile that an index names, in the mode that bit 4 of LCDC
selects. -/
def tileNumber (bus : σ) (index : UInt8) : ℕ :=
  if (Bus.read8 bus MemoryMap.lcdControl).toNat.testBit 4 = true ∨ 128 ≤ index.toNat then
    index.toNat
  else 256 + index.toNat

/-- The number in the atlas of the tile in a cell of the map that is shown. -/
def cellTile (bus : σ) (column row : ℕ) : ℕ :=
  tileNumber bus (Bus.read8 bus (UInt16.ofNat (Background.mapStart bus + 32 * row + column)))

lemma tileNumber_lt (bus : σ) (index : UInt8) : tileNumber bus index < 384 := by
  have hindex := index.toNat_lt
  rw [tileNumber]
  split <;> omega

/-- In either mode the tiles of the map lie where the atlas has them. -/
lemma tileStart_eq (bus : σ) (index : UInt8) :
    Background.tileStart bus index = 0x8000 + 16 * (tileNumber bus index : ℤ) := by
  rw [Background.tileStart, tileNumber, signed8]
  by_cases hmode : (Bus.read8 bus MemoryMap.lcdControl).toNat.testBit 4 = true
  · rw [if_pos hmode, if_pos (Or.inl hmode)]
  · by_cases hlow : index.toNat < 128
    · have hbehind : ¬ ((Bus.read8 bus MemoryMap.lcdControl).toNat.testBit 4 = true ∨
          128 ≤ index.toNat) := not_or.mpr ⟨hmode, Nat.not_le.mpr hlow⟩
      rw [if_neg hmode, if_pos hlow, if_neg hbehind]
      omega
    · rw [if_neg hmode, if_neg hlow, if_pos (Or.inr (Nat.not_lt.mp hlow))]
      omega

/-- A pixel of a cell of the map has the colour index of the pixel in the same place of its
tile in the atlas. -/
lemma rawAt_cellTile (bus : σ) (column row : ℕ) {px py : ℕ} (hpx : px < 8) (hpy : py < 8) :
    Background.rawAt bus (8 * column + px) (8 * row + py) =
      rawAt bus (8 * (cellTile bus column row % 16) + px)
        (8 * (cellTile bus column row / 16) + py) := by
  set n := cellTile bus column row with hn
  have hindex : Background.tileIndexAt bus (8 * column + px) (8 * row + py) =
      Bus.read8 bus (UInt16.ofNat (Background.mapStart bus + 32 * row + column)) := by
    have hrow : (8 * row + py) / 8 = row := by omega
    have hcolumn : (8 * column + px) / 8 = column := by omega
    rw [Background.tileIndexAt, hrow, hcolumn]
  have haddr : Background.byteAddressAt bus (8 * column + px) (8 * row + py) =
      (byteAddressAt (8 * (n % 16) + px) (8 * (n / 16) + py) : ℕ) := by
    rw [Background.byteAddressAt, hindex, tileStart_eq, ← cellTile, ← hn, byteAddressAt]
    omega
  have hnext : (byteAddressAt (8 * (n % 16) + px) (8 * (n / 16) + py) : ℤ) + 1 =
      (byteAddressAt (8 * (n % 16) + px) (8 * (n / 16) + py) + 1 : ℕ) := by omega
  have hplace : (8 * column + px) % 8 = (8 * (n % 16) + px) % 8 := by omega
  rw [Background.rawAt, rawAt, haddr, hnext, Word.ofInt_natCast, Word.ofInt_natCast, hplace]

/-- **The background is the atlas, tile by tile, under the palette.**  Take a cell of the
map and a place in its tile.  The atlas shows in that place of the tile exactly one of the
four shades; and if this is shade `s`, then the picture of the whole background shows in
that place of the cell the shade in slot `s` of BGP. -/
theorem background_recolors_atlas (bus : σ) {column row px py : ℕ} (hcolumn : column < 32)
    (hrow : row < 32) (hpx : px < 8) (hpy : py < 8) :
    ∃ atlas background : Picture,
      picture? bus = some atlas ∧ Background.picture? bus = some background ∧
      (∃! s : Fin 4, atlas.pixel? (UInt64.ofNat (8 * (cellTile bus column row % 16) + px))
        (UInt64.ofNat (8 * (cellTile bus column row / 16) + py)) = some panelColors[s.val]) ∧
      ∀ s : Fin 4, atlas.pixel? (UInt64.ofNat (8 * (cellTile bus column row % 16) + px))
          (UInt64.ofNat (8 * (cellTile bus column row / 16) + py)) = some panelColors[s.val] →
        background.pixel? (UInt64.ofNat (8 * column + px)) (UInt64.ofNat (8 * row + py)) =
          some panelColors[(Bus.read8 bus MemoryMap.backgroundPalette).toNat >>> (2 * s.val) % 4]
    := by
  obtain ⟨atlas, hatlas, hshade⟩ := exists_picture bus
  obtain ⟨background, hbackground, hpixel⟩ := Background.exists_picture bus
  have hlt : cellTile bus column row < 384 := tileNumber_lt bus _
  obtain ⟨raw, hraw, hshown⟩ := hshade (8 * (cellTile bus column row % 16) + px)
    (8 * (cellTile bus column row / 16) + py) (by omega) (by omega)
  -- the atlas shows the shade of the colour index, and no other shade looks the same
  have honly : ∀ s : Fin 4, some panelColors[raw.val] = some panelColors[s.val] → s = raw :=
    fun s hs => (panelColors_inj (Option.some.inj hs)).symm
  refine ⟨atlas, background, hatlas, hbackground, ⟨raw, hshown, fun s hs => ?_⟩, fun s hs => ?_⟩
  · exact honly s (hshown.symm.trans hs)
  · obtain rfl := honly s (hshown.symm.trans hs)
    have hcolor : Background.pixelAt bus (8 * column + px) (8 * row + py) =
        Palette.colorOf bus s.val := by
      rw [hraw, ← rawAt_cellTile bus column row hpx hpy]
      rfl
    rw [hpixel _ _ (by omega) (by omega), hcolor]
    rfl

/-- With signed indices, tile `7` is number `263` of the atlas.  A pixel of colour index `1`
in a cell that holds it has shade `1` in the atlas, and shade `2` under the palette that
reverses the shades. -/
theorem background_recolors_atlas_signed :
    let map := Bus.write8 FlatMemory.zero 0x98A3 7
    let tiles := Bus.write8 map 0x9072 0x20
    let bus := Bus.write8 tiles MemoryMap.backgroundPalette 0x1B
    3 < 32 ∧ 5 < 32 ∧ 2 < 8 ∧ 1 < 8 ∧ ∃ atlas background : Picture,
      picture? bus = some atlas ∧ Background.picture? bus = some background ∧
      atlas.pixel? 58 129 = some panelColors[1] ∧
      background.pixel? 26 41 = some panelColors[2] := by
  intro map tiles bus
  have hbytes : ∀ addr, Bus.read8 bus addr =
      if addr = MemoryMap.backgroundPalette then 0x1B
      else if addr = 0x9072 then 0x20 else if addr = 0x98A3 then 7 else 0 := by
    intro addr
    simp only [bus, tiles, map, FlatMemory.read8_write8, FlatMemory.read8_zero]
  have htile : cellTile bus 3 5 = 263 := by
    rw [cellTile, tileNumber, Background.mapStart, hbytes, hbytes]
    decide
  have hindex : rawAt bus 58 129 = 1 := by
    rw [rawAt, hbytes, hbytes]
    decide
  obtain ⟨atlas, background, hatlas, hbackground, -, hrecolored⟩ :=
    background_recolors_atlas bus (show 3 < 32 by decide) (show 5 < 32 by decide)
      (show 2 < 8 by decide) (show 1 < 8 by decide)
  rw [htile] at hrecolored
  obtain ⟨_, hsame, hshade⟩ := exists_picture bus
  obtain rfl := Option.some.inj (hatlas.symm.trans hsame)
  obtain ⟨raw, hraw, hshown⟩ := hshade 58 129 (by decide) (by decide)
  obtain rfl : raw = 1 := Fin.ext (hraw.trans hindex)
  have hpalette : Bus.read8 bus MemoryMap.backgroundPalette = 0x1B :=
    FlatMemory.read8_write8_self ..
  have hslot : some panelColors[(0x1B : UInt8).toNat >>> (2 * (1 : Fin 4).val) % 4] =
      some panelColors[2] := by decide
  have hpixel := hrecolored 1 hshown
  simp only [hpalette, hslot] at hpixel
  exact ⟨by decide, by decide, by decide, by decide, atlas, background, hatlas, hbackground,
    hshown, hpixel⟩

end TileAtlas

end DmgCore
