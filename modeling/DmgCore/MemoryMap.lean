/-!
Where things lie in the address space: the registers that the processor and the
renderer share, tile data and the background maps.
-/

namespace DmgCore

namespace MemoryMap

/-! ### Registers -/

/-- IF: which interrupts are requested. -/
def interruptRequest : UInt16 := 0xFF0F

/-- IE: which interrupts are enabled. -/
def interruptEnable : UInt16 := 0xFFFF

/-- LCDC: LCD control. -/
def lcdControl : UInt16 := 0xFF40

/-- SCY: the background row shown at the top of the screen. -/
def scrollY : UInt16 := 0xFF42

/-- SCX: the background column shown at the left of the screen. -/
def scrollX : UInt16 := 0xFF43

/-- BGP: the background palette. -/
def backgroundPalette : UInt16 := 0xFF47

/-! ### Video memory -/

/-- Where tile data begins, and tile `0` when indices are unsigned. -/
def tileData : UInt16 := 0x8000

/-- Tile `0` when indices are signed. -/
def signedTileData : UInt16 := 0x9000

/-- The first of the two background maps. -/
def map0 : UInt16 := 0x9800

/-- The second of the two background maps. -/
def map1 : UInt16 := 0x9C00

end MemoryMap

end DmgCore
