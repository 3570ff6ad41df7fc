/-!
Sixteen-bit words and the two bytes they are made of.

* `Word.ofBytes`, `Word.high`, `Word.low`: a word from its bytes and back;
* `Word.high_ofBytes`, `Word.low_ofBytes`, `Word.ofBytes_high_low`: the two
  directions undo each other, so a word and its pair of bytes carry the same
  information.

The definitions are arithmetic on the value of a word, `256 * high + low`, which
is the form in which every statement about words is proved.
-/

namespace DmgCore

namespace Word

/-- The word `256 * hi + lo`. -/
def ofBytes (hi lo : UInt8) : UInt16 := UInt16.ofNat (256 * hi.toNat + lo.toNat)

/-- The more significant byte of a word. -/
def high (w : UInt16) : UInt8 := UInt8.ofNat (w.toNat / 256)

/-- The less significant byte of a word. -/
def low (w : UInt16) : UInt8 := UInt8.ofNat (w.toNat % 256)

/-- A word reads as `256` times its high byte plus its low byte. -/
theorem toNat_ofBytes (hi lo : UInt8) : (ofBytes hi lo).toNat = 256 * hi.toNat + lo.toNat := by
  have hh := hi.toNat_lt
  have hl := lo.toNat_lt
  rw [ofBytes, UInt16.toNat_ofNat']
  omega

theorem toNat_high (w : UInt16) : (high w).toNat = w.toNat / 256 := by
  have hw := w.toNat_lt
  rw [high, UInt8.toNat_ofNat']
  omega

theorem toNat_low (w : UInt16) : (low w).toNat = w.toNat % 256 := by
  rw [low, UInt8.toNat_ofNat']
  omega

@[simp] theorem high_ofBytes (hi lo : UInt8) : high (ofBytes hi lo) = hi := by
  have hl := lo.toNat_lt
  apply UInt8.toNat_inj.mp
  rw [toNat_high, toNat_ofBytes]
  omega

@[simp] theorem low_ofBytes (hi lo : UInt8) : low (ofBytes hi lo) = lo := by
  have hl := lo.toNat_lt
  apply UInt8.toNat_inj.mp
  rw [toNat_low, toNat_ofBytes]
  omega

@[simp] theorem ofBytes_high_low (w : UInt16) : ofBytes (high w) (low w) = w := by
  apply UInt16.toNat_inj.mp
  rw [toNat_ofBytes, toNat_high, toNat_low]
  omega

end Word

end DmgCore
