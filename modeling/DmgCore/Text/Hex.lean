/-!
Hexadecimal text of fixed width, as trace lines and fault messages print it.

* `Hex.digits w n`: the `w` lowest hexadecimal digits of `n`, most significant
  first, upper case, with leading zeros;
* `Hex.byte`, `Hex.word`: two digits for a byte, four for a word;
* `Hex.plain`: lower case without leading zeros.
-/

namespace DmgCore

namespace Hex

/-- The upper-case digit for a value below sixteen. -/
def digit (n : Nat) : Char :=
  if n < 10 then Char.ofNat (48 + n) else Char.ofNat (55 + n)

/-- The `w` lowest hexadecimal digits of `n`, most significant first. -/
def digits : Nat → Nat → List Char
  | 0, _ => []
  | w + 1, n => digits w (n / 16) ++ [digit (n % 16)]

theorem length_digits (w n : Nat) : (digits w n).length = w := by
  induction w generalizing n with
  | zero => rfl
  | succ w ih => simp [digits, ih]

/-- A byte as two digits. -/
def byte (b : UInt8) : String := String.ofList (digits 2 b.toNat)

/-- A word as four digits. -/
def word (w : UInt16) : String := String.ofList (digits 4 w.toNat)

/-- A number in lower case without leading zeros. -/
def plain (n : Nat) : String := String.ofList (Nat.toDigits 16 n)

end Hex

end DmgCore
