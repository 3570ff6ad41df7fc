import DmgCore.Text.Hex

/-!
Bytes whose bits carry names.

A register such as LCDC is a byte in which single bits have a meaning and a name.
`BitNames` is the list of those names; from it follow the bits that mean
anything at all (`defined`), the reading that drops the others (`truncate`), the
test that there are none (`isExact`) and the text of a value (`describe`).
-/

namespace DmgCore

/-- The names of the bits of a byte, in the order in which they are listed. -/
structure BitNames where
  /-- What a byte of this kind is called. -/
  title : String
  /-- A mask of one bit and its name, for each bit that has one. -/
  entries : List (UInt8 × String)

namespace BitNames

/-- All bits that have a name. -/
def defined (names : BitNames) : UInt8 :=
  names.entries.foldl (fun acc entry => acc ||| entry.1) 0

/-- The named bits of a byte. -/
def truncate (names : BitNames) (bits : UInt8) : UInt8 := bits &&& names.defined

/-- The bits of a byte that have no name. -/
def unnamed (names : BitNames) (bits : UInt8) : UInt8 := bits &&& ~~~names.defined

/-- Whether every set bit has a name. -/
def isExact (names : BitNames) (bits : UInt8) : Bool := names.unnamed bits == 0

/-- The names of the set bits. -/
def setNames (names : BitNames) (bits : UInt8) : List String :=
  (names.entries.filter fun entry => bits &&& entry.1 == entry.1).map (·.2)

/-- The set names, then the bits without a name as one number; `0x0` stands for
a byte without any set bit. -/
def describe (names : BitNames) (bits : UInt8) : String :=
  let rest := names.unnamed bits
  let parts := names.setNames bits ++ (if rest == 0 then [] else ["0x" ++ Hex.plain rest.toNat])
  let text := if parts.isEmpty then "0x0" else " | ".intercalate parts
  s!"{names.title}({text})"

end BitNames

end DmgCore
