import Mathlib.Data.List.Basic
import DmgCore.Proofs.Bus.WriteList
import DmgCore.Proofs.Video.BackgroundPicture

/-!
Which bytes of memory a drawing can depend on.

* `Background.addresses`: the three addresses read for one line of the tile in a cell of
  the map, and `Background.exactAddresses`: none of them wraps or leaves video memory;
* `Background.tileRow_eq_of_read8_eq`: two memories that agree there, and on the two bits
  of LCDC that count, show the same line of the tile;
* `Background.pictureAddresses`, `Scanline.addresses`: all that is read for the whole
  background and for a line of the screen;
* `Background.SameTiles`, `Background.SameMap`, `Scanline.SameWindow`: two memories agree on
  what a drawing can show;
* `Renderer.drawings_depend_on_footprint`: then they give the same drawing, whatever they
  hold elsewhere.
-/

namespace DmgCore

variable {σ σ' : Type} [Bus σ] [Bus σ']

namespace Background

/-! ### Addresses -/

/-- Where the block of `256` tiles begins that the map can name, in the mode that bit 4 of
LCDC selects. -/
def blockStart (bus : σ) : ℕ :=
  if (Bus.read8 bus MemoryMap.lcdControl).toNat.testBit 4 then 0x8000 else 0x8800

/-- Where the tile in a cell of the map begins. -/
def cellTileAddress (bus : σ) (column row : ℕ) : UInt16 :=
  (LcdControl.read bus).tileAddress
    (Bus.read8 bus (cellAddress (LcdControl.read bus) column row))

/-- The addresses read for line `y` of the tile in a cell: that of the cell in the map, and
those of the two bytes of the line. -/
def addresses (bus : σ) (column row : ℕ) (y : UInt8) : List UInt16 :=
  [cellAddress (LcdControl.read bus) column row,
    Tile.rowAddress (cellTileAddress bus column row) y,
    Tile.rowAddress (cellTileAddress bus column row) y + 1]

/-- The addresses computed for line `y` of the tile in a cell are those that unbounded
arithmetic gives; the cell lies in its map and the tile in its block. -/
structure ExactAddresses (bus : σ) (column row : ℕ) (y : UInt8) : Prop where
  cell : (cellAddress (LcdControl.read bus) column row).toNat = mapStart bus + 32 * row + column
  tile : ((cellTileAddress bus column row).toNat : ℤ) =
    tileStart bus (Bus.read8 bus (cellAddress (LcdControl.read bus) column row))
  low : (Tile.rowAddress (cellTileAddress bus column row) y).toNat =
    (cellTileAddress bus column row).toNat + 2 * y.toNat
  high : (Tile.rowAddress (cellTileAddress bus column row) y + 1).toNat =
    (cellTileAddress bus column row).toNat + 2 * y.toNat + 1
  cell_lt : mapStart bus + 32 * row + column < mapStart bus + 0x400
  block_le : blockStart bus ≤ (cellTileAddress bus column row).toNat
  le_block : (cellTileAddress bus column row).toNat + 16 ≤ blockStart bus + 0x1000

lemma mapStart_bounds (bus : σ) : 0x9800 ≤ mapStart bus ∧ mapStart bus + 0x400 ≤ 0xA000 := by
  rw [mapStart]
  split <;> omega

lemma blockStart_bounds (bus : σ) :
    0x8000 ≤ blockStart bus ∧ blockStart bus + 0x1000 ≤ 0x9800 := by
  rw [blockStart]
  split <;> omega

/-- In either mode every index names a tile of the block. -/
lemma tileStart_bounds (bus : σ) (index : UInt8) :
    (blockStart bus : ℤ) ≤ tileStart bus index ∧
      tileStart bus index + 16 ≤ blockStart bus + 0x1000 := by
  have hindex := index.toNat_lt
  rw [tileStart, blockStart, signed8]
  by_cases hmode : (Bus.read8 bus MemoryMap.lcdControl).toNat.testBit 4 = true
  · rw [if_pos hmode, if_pos hmode]
    omega
  · rw [if_neg hmode, if_neg hmode]
    split <;> omega

lemma toNat_cellAddress (bus : σ) {column row : ℕ} (hcolumn : column < 32) (hrow : row < 32) :
    (cellAddress (LcdControl.read bus) column row).toNat = mapStart bus + 32 * row + column := by
  have hmap := mapStart_bounds bus
  have hcells : cells = 32 := rfl
  rw [cellAddress, LcdControl.toNat_mapBase_read, hcells]
  exact Word.toNat_ofNat_of_lt (by omega)

lemma toNat_cellTileAddress (bus : σ) (column row : ℕ) :
    ((cellTileAddress bus column row).toNat : ℤ) =
      tileStart bus (Bus.read8 bus (cellAddress (LcdControl.read bus) column row)) := by
  set index := Bus.read8 bus (cellAddress (LcdControl.read bus) column row) with hindex
  have hblock := blockStart_bounds bus
  have htile := tileStart_bounds bus index
  obtain ⟨n, hn⟩ := Int.eq_ofNat_of_zero_le (show 0 ≤ tileStart bus index by omega)
  have hword : (UInt16.ofNat n).toNat = n :=
    Word.toNat_ofNat_of_lt (by omega)
  rw [cellTileAddress, ← hindex, LcdControl.tileAddress_read, hn, Word.ofInt_natCast, hword]

/-- No address computed for a line of a tile wraps. -/
lemma exactAddresses (bus : σ) {column row : ℕ} {y : UInt8} (hcolumn : column < 32)
    (hrow : row < 32) (hy : y.toNat < 8) : ExactAddresses bus column row y := by
  have hmap := mapStart_bounds bus
  have hblock := blockStart_bounds bus
  have htile := toNat_cellTileAddress bus column row
  have hbounds := tileStart_bounds bus
    (Bus.read8 bus (cellAddress (LcdControl.read bus) column row))
  have htwo : (2 * y.toUInt16 : UInt16).toNat = 2 * y.toNat := by
    rw [UInt16.toNat_mul, UInt8.toNat_toUInt16]
    show 2 * y.toNat % 65536 = 2 * y.toNat
    omega
  have hlow : (Tile.rowAddress (cellTileAddress bus column row) y).toNat =
      (cellTileAddress bus column row).toNat + 2 * y.toNat := by
    rw [Tile.rowAddress, UInt16.toNat_add, htwo]
    omega
  refine ⟨toNat_cellAddress bus hcolumn hrow, htile, hlow, ?_, by omega, by omega, by omega⟩
  rw [UInt16.toNat_add, hlow]
  show ((cellTileAddress bus column row).toNat + 2 * y.toNat + 1) % 65536 = _
  omega

/-- An address read for a line of a tile is that of the cell, or lies in the block. -/
lemma ExactAddresses.mem {bus : σ} {column row : ℕ} {y : UInt8} (hy : y.toNat < 8)
    (h : ExactAddresses bus column row y) {addr : UInt16}
    (haddr : addr ∈ addresses bus column row y) :
    addr.toNat = mapStart bus + 32 * row + column ∨
      blockStart bus ≤ addr.toNat ∧ addr.toNat < blockStart bus + 0x1000 := by
  have hfrom := h.block_le
  have hto := h.le_block
  simp only [addresses, List.mem_cons, List.not_mem_nil, or_false] at haddr
  rcases haddr with rfl | rfl | rfl
  · exact Or.inl h.cell
  · have hlow := h.low
    exact Or.inr (by omega)
  · have hhigh := h.high
    exact Or.inr (by omega)

/-- No address read for a line of a tile lies outside video memory. -/
lemma ExactAddresses.in_video {bus : σ} {column row : ℕ} {y : UInt8} (hy : y.toNat < 8)
    (h : ExactAddresses bus column row y) {addr : UInt16}
    (haddr : addr ∈ addresses bus column row y) :
    0x8000 ≤ addr.toNat ∧ addr.toNat ≤ 0x9FFF := by
  have hmap := mapStart_bounds bus
  have hblock := blockStart_bounds bus
  have hcell := h.cell_lt
  rcases h.mem hy haddr with haddr | ⟨hfrom, hto⟩ <;> omega

/-! ### Two memories -/

/-- Two memories select the same map and name tiles in the same mode. -/
structure SameModes (bus : σ) (bus' : σ') : Prop where
  map : (Bus.read8 bus MemoryMap.lcdControl).toNat.testBit 3 =
    (Bus.read8 bus' MemoryMap.lcdControl).toNat.testBit 3
  tile : (Bus.read8 bus MemoryMap.lcdControl).toNat.testBit 4 =
    (Bus.read8 bus' MemoryMap.lcdControl).toNat.testBit 4

lemma SameModes.cellAddress_eq {bus : σ} {bus' : σ'} (h : SameModes bus bus') (column row : ℕ) :
    cellAddress (LcdControl.read bus) column row =
      cellAddress (LcdControl.read bus') column row := by
  rw [cellAddress, cellAddress, LcdControl.toNat_mapBase_read, LcdControl.toNat_mapBase_read,
    mapStart, mapStart, h.map]

lemma SameModes.tileAddress_eq {bus : σ} {bus' : σ'} (h : SameModes bus bus') (index : UInt8) :
    (LcdControl.read bus).tileAddress index = (LcdControl.read bus').tileAddress index := by
  rw [LcdControl.tileAddress_read, LcdControl.tileAddress_read, tileStart, tileStart, h.tile]

/-- What is shown of the tile in a cell depends on the bytes read, and on nothing else. -/
lemma tileRow_eq_of_read8_eq {bus : σ} {bus' : σ'} (hmodes : SameModes bus bus')
    {column row : ℕ} {y : UInt8}
    (h : ∀ addr ∈ addresses bus column row y, Bus.read8 bus addr = Bus.read8 bus' addr) :
    tileRow bus (LcdControl.read bus) column row y =
      tileRow bus' (LcdControl.read bus') column row y := by
  simp only [addresses, List.forall_mem_cons] at h
  obtain ⟨hcell, hlow, hhigh, -⟩ := h
  have htile : (LcdControl.read bus').tileAddress
      (Bus.read8 bus' (cellAddress (LcdControl.read bus') column row)) =
        cellTileAddress bus column row := by
    rw [← hmodes.cellAddress_eq, ← hmodes.tileAddress_eq, ← hcell, cellTileAddress]
  rw [tileRow, tileRow, htile, ← cellTileAddress, Tile.row, Tile.row, hlow, hhigh]

/-- The addresses read for the whole background. -/
def pictureAddresses (bus : σ) : List UInt16 :=
  (List.range 32).flatMap fun row => (List.range 8).flatMap fun y =>
    (List.range 32).flatMap fun column => addresses bus column row (UInt8.ofNat y)

lemma toNat_line {y : ℕ} (hy : y < 8) : (UInt8.ofNat y).toNat < 8 := by
  rw [UInt8.toNat_ofNat']
  omega

/-- The whole background depends on the two modes, the palette and the bytes read. -/
lemma render?_eq_of_read8_eq {bus : σ} {bus' : σ'} (hmodes : SameModes bus bus')
    (hpalette : Bus.read8 bus MemoryMap.backgroundPalette =
      Bus.read8 bus' MemoryMap.backgroundPalette)
    (h : ∀ addr ∈ pictureAddresses bus, Bus.read8 bus addr = Bus.read8 bus' addr)
    {τ : Type} [PictureSink τ] (sink : τ) : render? bus sink = render? bus' sink := by
  have hindices : indices bus = indices bus' := by
    refine List.flatMap_congr fun row hrow => List.flatMap_congr fun y hy =>
      List.flatMap_congr fun column hcolumn => ?_
    refine tileRow_eq_of_read8_eq hmodes fun addr haddr => h addr ?_
    exact List.mem_flatMap.mpr ⟨row, hrow, List.mem_flatMap.mpr ⟨y, hy,
      List.mem_flatMap.mpr ⟨column, hcolumn, haddr⟩⟩⟩
  rw [render?, render?, hindices, Palette.read, Palette.read, hpalette]

end Background

namespace Scanline

/-- The addresses read for a line of the screen. -/
def addresses (bus : σ) (line : UInt8) : List UInt16 :=
  (List.range 21).flatMap fun i =>
    Background.addresses bus (((backgroundColumn bus).toNat / 8 + i) % 32)
      ((backgroundRow bus line).toNat / 8) (backgroundRow bus line % 8)

lemma toNat_line_lt (bus : σ) (line : UInt8) : (backgroundRow bus line % 8).toNat < 8 := by
  rw [UInt8.toNat_mod]
  exact Nat.mod_lt _ (by decide)

lemma toNat_row_lt (bus : σ) (line : UInt8) : (backgroundRow bus line).toNat / 8 < 32 := by
  have hrow := (backgroundRow bus line).toNat_lt
  omega

/-- A line of the screen depends on the two modes, the palette, the scroll registers and the
bytes read. -/
lemma row?_eq_of_read8_eq {bus : σ} {bus' : σ'} (hmodes : Background.SameModes bus bus')
    (hpalette : Bus.read8 bus MemoryMap.backgroundPalette =
      Bus.read8 bus' MemoryMap.backgroundPalette)
    (hscrollX : Bus.read8 bus MemoryMap.scrollX = Bus.read8 bus' MemoryMap.scrollX)
    (hscrollY : Bus.read8 bus MemoryMap.scrollY = Bus.read8 bus' MemoryMap.scrollY)
    {line : UInt8}
    (h : ∀ addr ∈ addresses bus line, Bus.read8 bus addr = Bus.read8 bus' addr) :
    row? bus line = row? bus' line := by
  have hcolumn : backgroundColumn bus = backgroundColumn bus' := hscrollX
  have hrow : backgroundRow bus line = backgroundRow bus' line := by
    rw [backgroundRow, backgroundRow, hscrollY]
  have hstrip : strip bus line = strip bus' line := by
    refine List.flatMap_congr fun i hi => ?_
    rw [← hcolumn, ← hrow]
    refine Background.tileRow_eq_of_read8_eq hmodes fun addr haddr => h addr ?_
    exact List.mem_flatMap.mpr ⟨i, hi, haddr⟩
  have hindices : indices bus line = indices bus' line := by
    refine Vector.ext fun x hx => ?_
    simp only [indices, hstrip, hcolumn]
  rw [row?, row?, hindices, Palette.read, Palette.read, hpalette]

end Scanline

/-! ### The footprint of a drawing -/

namespace Background

/-- Two memories hold the same tiles in the mode that they share, under the same palette. -/
structure SameTiles (bus : σ) (bus' : σ') : Prop where
  modes : SameModes bus bus'
  palette : Bus.read8 bus MemoryMap.backgroundPalette =
    Bus.read8 bus' MemoryMap.backgroundPalette
  block : ∀ addr : UInt16, blockStart bus ≤ addr.toNat → addr.toNat < blockStart bus + 0x1000 →
    Bus.read8 bus addr = Bus.read8 bus' addr

/-- Two memories hold the same map, where the first one has the map that it shows. -/
def SameMap (bus : σ) (bus' : σ') : Prop :=
  ∀ addr : UInt16, mapStart bus ≤ addr.toNat → addr.toNat < mapStart bus + 0x400 →
    Bus.read8 bus addr = Bus.read8 bus' addr

/-- Two memories with the same tiles agree on what is read for a line of a tile, if they
agree on its cell in the map. -/
lemma SameTiles.read8_eq {bus : σ} {bus' : σ'} (h : SameTiles bus bus') {column row : ℕ}
    {y : UInt8} (hcolumn : column < 32) (hrow : row < 32) (hy : y.toNat < 8)
    (hcell : Bus.read8 bus (UInt16.ofNat (mapStart bus + 32 * row + column)) =
      Bus.read8 bus' (UInt16.ofNat (mapStart bus + 32 * row + column)))
    {addr : UInt16} (haddr : addr ∈ addresses bus column row y) :
    Bus.read8 bus addr = Bus.read8 bus' addr := by
  rcases (exactAddresses bus hcolumn hrow hy).mem hy haddr with hplace | ⟨hfrom, hto⟩
  · rw [← UInt16.ofNat_toNat (x := addr), hplace]
    exact hcell
  · exact h.block addr hfrom hto

lemma SameMap.cell {bus : σ} {bus' : σ'} (h : SameMap bus bus') {column row : ℕ}
    (hcolumn : column < 32) (hrow : row < 32) :
    Bus.read8 bus (UInt16.ofNat (mapStart bus + 32 * row + column)) =
      Bus.read8 bus' (UInt16.ofNat (mapStart bus + 32 * row + column)) := by
  have hmap := mapStart_bounds bus
  have hplace : (UInt16.ofNat (mapStart bus + 32 * row + column)).toNat =
      mapStart bus + 32 * row + column :=
    Word.toNat_ofNat_of_lt (by omega)
  exact h _ (by omega) (by omega)

/-- With the same tiles and the same map, all that is read for the whole background agrees. -/
lemma SameTiles.read8_pictureAddresses {bus : σ} {bus' : σ'} (h : SameTiles bus bus')
    (hmap : SameMap bus bus') {addr : UInt16} (haddr : addr ∈ pictureAddresses bus) :
    Bus.read8 bus addr = Bus.read8 bus' addr := by
  simp only [pictureAddresses, List.mem_flatMap, List.mem_range] at haddr
  obtain ⟨row, hrow, y, hy, column, hcolumn, haddr⟩ := haddr
  exact h.read8_eq hcolumn hrow (toNat_line hy) (hmap.cell hcolumn hrow) haddr

/-- Nothing outside video memory is read for the whole background. -/
lemma pictureAddresses_in_video (bus : σ) {addr : UInt16} (haddr : addr ∈ pictureAddresses bus) :
    0x8000 ≤ addr.toNat ∧ addr.toNat ≤ 0x9FFF := by
  simp only [pictureAddresses, List.mem_flatMap, List.mem_range] at haddr
  obtain ⟨row, hrow, y, hy, column, hcolumn, haddr⟩ := haddr
  exact (exactAddresses bus hcolumn hrow (toNat_line hy)).in_video (toNat_line hy) haddr

end Background

namespace Scanline

/-- Two memories show the same row of the map on a line of the screen, scrolled alike. -/
structure SameWindow (bus : σ) (bus' : σ') (line : UInt8) : Prop where
  scrollX : Bus.read8 bus MemoryMap.scrollX = Bus.read8 bus' MemoryMap.scrollX
  scrollY : Bus.read8 bus MemoryMap.scrollY = Bus.read8 bus' MemoryMap.scrollY
  mapRow : ∀ column < 32, ∀ addr : UInt16, addr.toNat = Background.mapStart bus +
      32 * ((line.toNat + (Bus.read8 bus MemoryMap.scrollY).toNat) % 256 / 8) + column →
    Bus.read8 bus addr = Bus.read8 bus' addr

/-- With the same tiles and the same row of the map, all that is read for a line of the
screen agrees. -/
lemma SameWindow.read8_addresses {bus : σ} {bus' : σ'} {line : UInt8}
    (h : SameWindow bus bus' line) (htiles : Background.SameTiles bus bus') {addr : UInt16}
    (haddr : addr ∈ addresses bus line) : Bus.read8 bus addr = Bus.read8 bus' addr := by
  obtain ⟨i, -, haddr⟩ := List.mem_flatMap.mp haddr
  have hcolumn : ((backgroundColumn bus).toNat / 8 + i) % 32 < 32 := Nat.mod_lt _ (by decide)
  have hrow := toNat_row_lt bus line
  have hmap := Background.mapStart_bounds bus
  refine htiles.read8_eq hcolumn hrow (toNat_line_lt bus line) ?_ haddr
  refine h.mapRow _ hcolumn _ ?_
  rw [← toNat_backgroundRow]
  exact Word.toNat_ofNat_of_lt (by omega)

/-- Nothing outside video memory is read for a line of the screen. -/
lemma addresses_in_video (bus : σ) {line : UInt8} {addr : UInt16}
    (haddr : addr ∈ addresses bus line) : 0x8000 ≤ addr.toNat ∧ addr.toNat ≤ 0x9FFF := by
  obtain ⟨i, -, haddr⟩ := List.mem_flatMap.mp haddr
  have hy := toNat_line_lt bus line
  exact (Background.exactAddresses bus (Nat.mod_lt _ (by decide)) (toNat_row_lt bus line)
    hy).in_video hy haddr

end Scanline

namespace Renderer

/-- A renderer depends on memory only through the row that it draws. -/
lemma drawScanline_congr {τ : Type} [RowSink τ] (renderer : Renderer τ) {bus : σ} {bus' : σ'}
    {line : UInt8} (h : Scanline.row? bus line = Scanline.row? bus' line) :
    renderer.drawScanline bus line = renderer.drawScanline bus' line := by
  rw [drawScanline, drawScanline, h]

/-- **A drawing depends on its footprint only.**  Let two memories agree on bits 3 and 4 of
LCDC, on the palette and on the block of tiles of their mode.  If they also agree on the map
that is shown, then the whole background is the same.  If they also agree on the scroll
registers and on the `32` cells of the map that a line of the screen meets, then drawing
this line has the same outcome, whatever the state of the renderer.  The addresses read lie
in video memory, and those computed are what unbounded arithmetic gives. -/
theorem drawings_depend_on_footprint (bus : σ) (bus' : σ') :
    (Background.SameTiles bus bus' → Background.SameMap bus bus' →
      Background.picture? bus = Background.picture? bus' ∧
      ∀ {τ : Type} [PictureSink τ] (sink : τ),
        Background.render? bus sink = Background.render? bus' sink) ∧
    (∀ line, Background.SameTiles bus bus' → Scanline.SameWindow bus bus' line →
      ∀ {τ : Type} [RowSink τ] (renderer : Renderer τ),
        renderer.drawScanline bus line = renderer.drawScanline bus' line) ∧
    (∀ addr ∈ Background.pictureAddresses bus, 0x8000 ≤ addr.toNat ∧ addr.toNat ≤ 0x9FFF) ∧
    (∀ line, ∀ addr ∈ Scanline.addresses bus line,
      0x8000 ≤ addr.toNat ∧ addr.toNat ≤ 0x9FFF) ∧
    ∀ column row y, column < 32 → row < 32 → y.toNat < 8 →
      Background.ExactAddresses bus column row y := by
  refine ⟨fun htiles hmap => ?_, fun line htiles hwindow τ _ renderer => ?_,
    fun addr haddr => Background.pictureAddresses_in_video bus haddr,
    fun line addr haddr => Scanline.addresses_in_video bus haddr,
    fun column row y hcolumn hrow hy => Background.exactAddresses bus hcolumn hrow hy⟩
  · have hread : ∀ addr ∈ Background.pictureAddresses bus,
        Bus.read8 bus addr = Bus.read8 bus' addr :=
      fun addr haddr => htiles.read8_pictureAddresses hmap haddr
    exact ⟨Background.render?_eq_of_read8_eq htiles.modes htiles.palette hread _,
      fun sink => Background.render?_eq_of_read8_eq htiles.modes htiles.palette hread sink⟩
  · exact renderer.drawScanline_congr (Scanline.row?_eq_of_read8_eq htiles.modes htiles.palette
      hwindow.scrollX hwindow.scrollY fun addr haddr => hwindow.read8_addresses htiles haddr)

/-- The other bits of LCDC, the other map, the tiles that signed indices cannot name, and
requests of interrupts are not seen. -/
theorem drawings_depend_on_footprint_signed :
    let mem := Bus.write8 (Bus.write8 (Bus.write8 FlatMemory.zero 0x9010 0x5A) 0x9845 1)
      MemoryMap.scrollX 0x1D
    let other := Bus.write8 (Bus.write8 (Bus.write8 (Bus.write8 mem MemoryMap.lcdControl 0xE7)
      0x9C45 2) 0x87FF 0xFF) MemoryMap.interruptRequest 0x1F
    let renderer : Renderer FrameBuffer := ⟨true, true, some .blank, Row.fill 7⟩
    Background.SameTiles mem other ∧ Background.SameMap mem other ∧
      Scanline.SameWindow mem other 17 ∧ mem ≠ other ∧
      Background.picture? mem = Background.picture? other ∧
      renderer.drawScanline mem 17 = renderer.drawScanline other 17 := by
  intro mem other renderer
  have hcontrol : Bus.read8 mem MemoryMap.lcdControl = 0 := by
    simp only [mem, FlatMemory.read8_write8, FlatMemory.read8_zero]
    decide
  have hcontrol' : Bus.read8 other MemoryMap.lcdControl = 0xE7 := by
    simp only [other, FlatMemory.read8_write8]
    decide
  have hsame : ∀ addr, addr ≠ MemoryMap.interruptRequest → addr ≠ 0x87FF → addr ≠ 0x9C45 →
      addr ≠ MemoryMap.lcdControl → Bus.read8 mem addr = Bus.read8 other addr := by
    intro addr hrequest htile hcell hlcdc
    simp only [other, FlatMemory.read8_write8, if_neg hrequest, if_neg htile, if_neg hcell,
      if_neg hlcdc]
  -- from the first tile of signed indices to the end of the first map nothing differs
  have hshown : ∀ addr : UInt16, 0x8800 ≤ addr.toNat → addr.toNat < 0x9C00 →
      Bus.read8 mem addr = Bus.read8 other addr := by
    intro addr hfrom hto
    have hne : ∀ place : UInt16, place.toNat < 0x8800 ∨ 0x9C00 ≤ place.toNat → addr ≠ place := by
      rintro place hplace rfl
      omega
    exact hsame addr (hne _ (by decide)) (hne _ (by decide)) (hne _ (by decide))
      (hne _ (by decide))
  have hblock : Background.blockStart mem = 0x8800 := by
    rw [Background.blockStart, hcontrol]
    decide
  have hmapStart : Background.mapStart mem = 0x9800 := by
    rw [Background.mapStart, hcontrol]
    decide
  have htiles : Background.SameTiles mem other := by
    refine ⟨⟨?_, ?_⟩, hsame _ (by decide) (by decide) (by decide) (by decide),
      fun addr hfrom hto => hshown addr ?_ ?_⟩
    · rw [hcontrol, hcontrol']
      decide
    · rw [hcontrol, hcontrol']
      decide
    · omega
    · omega
  have hmap : Background.SameMap mem other := by
    intro addr hfrom hto
    exact hshown addr (by omega) (by omega)
  have hwindow : Scanline.SameWindow mem other 17 := by
    refine ⟨hsame _ (by decide) (by decide) (by decide) (by decide),
      hsame _ (by decide) (by decide) (by decide) (by decide), fun column hcolumn addr haddr => ?_⟩
    have hrow : ((17 : UInt8).toNat + (Bus.read8 mem MemoryMap.scrollY).toNat) % 256 / 8 < 32 := by
      omega
    exact hshown addr (by omega) (by omega)
  have hdiffer : mem ≠ other := by
    intro h
    rw [← h, hcontrol] at hcontrol'
    exact absurd hcontrol' (by decide)
  obtain ⟨hpicture, hline, -, -, -⟩ := drawings_depend_on_footprint mem other
  exact ⟨htiles, hmap, hwindow, hdiffer, (hpicture htiles hmap).1, hline 17 htiles hwindow renderer⟩

end Renderer

end DmgCore
