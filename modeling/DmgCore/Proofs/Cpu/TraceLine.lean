import DmgCore.Proofs.Cpu.RegisterWrites

/-!
The trace line of a register file, and what it tells.

* `Hex.read?`: the number that hexadecimal digits stand for, and `Hex.read?_digits`: the digits
  of a number stand for it, as far as they go;
* `Registers.traceWord_inj`: the text of a word determines it;
* `Flags.getElem?_letters`: which letter or dash stands for a flag;
* `Registers.eq_of_traceChars_eq`: a line determines the register file, as its parts have fixed
  lengths and each of them determines what it is the text of;
* `Registers.trace_determines_registers`: the statements together.
-/

namespace DmgCore

namespace Hex

/-! ### Reading digits -/

/-- The value of an upper-case digit. -/
def value? (char : Char) : Option ℕ :=
  if '0' ≤ char ∧ char ≤ '9' then some (char.toNat - 48)
  else if 'A' ≤ char ∧ char ≤ 'F' then some (char.toNat - 55)
  else none

/-- The number that digits stand for, most significant first. -/
def read? (chars : List Char) : Option ℕ :=
  chars.foldlM (fun number char => (value? char).map (16 * number + ·)) 0

/-- Each of the sixteen digits has the value it stands for. -/
lemma value?_digit {n : ℕ} (hn : n < 16) : value? (digit n) = some n := by
  interval_cases n <;> rfl

/-- The lowest digits of a number stand for its remainder. -/
lemma read?_digits (w n : ℕ) : read? (digits w n) = some (n % 1 <<< (4 * w)) := by
  induction w generalizing n with
  | zero => simp [digits, read?, Nat.mod_one]
  | succ w ih =>
      have hvalue : value? (digit (n % 16)) = some (n % 16) :=
        value?_digit (Nat.mod_lt n (by decide))
      have hmod : 16 * (n / 16 % 1 <<< (4 * w)) + n % 16 = n % 1 <<< (4 * (w + 1)) := by
        have hshift : 1 <<< (4 * (w + 1)) = 16 * 1 <<< (4 * w) := by
          rw [Nat.mul_succ, Nat.shiftLeft_add, Nat.shiftLeft_eq _ 4, Nat.mul_comm]
        rw [hshift, Nat.mod_mul, Nat.add_comm]
      have hupper := ih (n / 16)
      rw [read?] at hupper ⊢
      rw [digits, List.foldlM_append, hupper, ← hmod]
      simp [hvalue]

end Hex

/-! ### The parts of the line -/

/-- Each flag has its letter in its place if its bit of F is set, and else a dash. -/
lemma Flags.getElem?_letters (flags : Flags) {k : ℕ} (hk : k < 4) :
    flags.letters[k]? =
      if flags.toByte.toNat.testBit (7 - k) then ['Z', 'N', 'H', 'C'][k]? else some '-' := by
  obtain ⟨z, n, h, c⟩ := flags
  rw [testBit_toByte _ (by omega)]
  interval_cases k
  · cases z <;> rfl
  · cases n <;> rfl
  · cases h <;> rfl
  · cases c <;> rfl

/-- A word determines its two bytes. -/
lemma Word.ofBytes_inj {hi lo hi' lo' : UInt8} (h : ofBytes hi lo = ofBytes hi' lo') :
    hi = hi' ∧ lo = lo' := by
  refine ⟨?_, ?_⟩
  · rw [← high_ofBytes hi lo, h, high_ofBytes]
  · rw [← low_ofBytes hi lo, h, low_ofBytes]

namespace Registers

lemma length_traceWord (first second : Char) (value : UInt16) :
    (traceWord [first, second] value).length = 10 := by
  simp [traceWord, Hex.length_digits]

/-- Four digits are enough for a word. -/
lemma traceWord_inj {name : List Char} {value value' : UInt16}
    (h : traceWord name value = traceWord name value') : value = value' := by
  have hmod : ∀ word : UInt16, Hex.read? (Hex.digits 4 word.toNat) = some word.toNat := by
    intro word
    have hword := word.toNat_lt
    rw [Hex.read?_digits]
    exact congrArg some (Nat.mod_eq_of_lt hword)
  rw [traceWord, traceWord, List.append_cancel_right_eq, List.append_cancel_left_eq] at h
  have hread := congrArg Hex.read? h
  rw [hmod, hmod, Option.some_inj] at hread
  exact UInt16.toNat_inj.mp hread

/-- Lines with the same characters are lines of the same register file. -/
lemma eq_of_traceChars_eq {regs regs' : Registers} (h : regs.traceChars = regs'.traceChars) :
    regs = regs' := by
  rw [traceChars, traceChars, List.append_cancel_right_eq] at h
  -- the parts are taken off one by one from the end, each as long as its counterpart
  obtain ⟨h, -⟩ := List.append_inj' h rfl
  rw [List.append_cancel_right_eq] at h
  have hlength := length_traceWord
  obtain ⟨h, hpc⟩ := List.append_inj' h (by rw [hlength, hlength])
  obtain ⟨h, hsp⟩ := List.append_inj' h (by rw [hlength, hlength])
  obtain ⟨h, hhl⟩ := List.append_inj' h (by rw [hlength, hlength])
  obtain ⟨h, hde⟩ := List.append_inj' h (by rw [hlength, hlength])
  obtain ⟨haf, hbc⟩ := List.append_inj' h (by rw [hlength, hlength])
  obtain ⟨ha, hf⟩ := Word.ofBytes_inj (traceWord_inj haf)
  obtain ⟨hb, hc⟩ := Word.ofBytes_inj (traceWord_inj hbc)
  obtain ⟨hd, he⟩ := Word.ofBytes_inj (traceWord_inj hde)
  obtain ⟨hh, hl⟩ := Word.ofBytes_inj (traceWord_inj hhl)
  have hflags : regs.f = regs'.f := by
    rw [← Flags.ofByte_toByte regs.f, hf, Flags.ofByte_toByte]
  have hsp' := traceWord_inj hsp
  have hpc' := traceWord_inj hpc
  cases regs
  cases regs'
  rw [mk.injEq]
  exact ⟨ha, hflags, hb, hc, hd, he, hh, hl, hsp', hpc'⟩

/-- Behind the words come the flags in their brackets. -/
lemma getElem?_traceChars (regs : Registers) (j : ℕ) :
    regs.traceChars[60 + j]? = ('[' :: (regs.f.letters ++ [']']))[j]? := by
  set words := traceWord ['A', 'F'] regs.af ++ traceWord ['B', 'C'] regs.bc
    ++ traceWord ['D', 'E'] regs.de ++ traceWord ['H', 'L'] regs.hl
    ++ traceWord ['S', 'P'] regs.sp ++ traceWord ['P', 'C'] regs.pc with hwords
  have hlength : words.length = 60 := by
    simp only [hwords, List.length_append, length_traceWord]
  have hchars : regs.traceChars = words ++ '[' :: (regs.f.letters ++ [']']) := by
    simp [traceChars, hwords]
  rw [hchars, List.getElem?_append_right (by omega), hlength, Nat.add_sub_cancel_left]

/-- The lower half of AF is F. -/
lemma read?_low_af (regs : Registers) :
    Hex.read? (Hex.digits 2 regs.af.toNat) = some regs.f.toByte.toNat := by
  have hf := regs.f.toByte.toNat_lt
  rw [Hex.read?_digits, af, Word.toNat_ofBytes]
  refine congrArg some ?_
  change (256 * regs.a.toNat + regs.f.toByte.toNat) % 256 = _
  omega

/-! ### The statements together -/

/-- **The trace line loses nothing.**  Lines are the same just if all registers are.  Each line
begins with AF, of which the last two digits read as the byte F, and of the four characters
between the brackets each is the letter of its flag if its bit of that byte is set, from bit `7`
down, and else a dash. -/
theorem trace_determines_registers :
    (∀ regs regs' : Registers, regs.trace = regs'.trace ↔ regs = regs') ∧
    ∀ regs : Registers, ∃ byte, regs.trace.toList.take 5 = ['A', 'F', '=', '0', 'x'] ∧
      Hex.read? ((regs.trace.toList.drop 7).take 2) = some byte ∧ byte = regs.f.toByte.toNat ∧
      regs.trace.toList[60]? = some '[' ∧ regs.trace.toList[65]? = some ']' ∧
      ∀ k < 4, regs.trace.toList[61 + k]? =
        if byte.testBit (7 - k) then ['Z', 'N', 'H', 'C'][k]? else some '-' := by
  have htrace : ∀ regs : Registers, regs.trace.toList = regs.traceChars :=
    fun regs => String.toList_ofList
  refine ⟨fun regs regs' => ⟨fun h => ?_, fun h => by rw [h]⟩, fun regs => ?_⟩
  · refine eq_of_traceChars_eq ?_
    rw [← htrace, h, htrace]
  · have hlow : (regs.traceChars.drop 7).take 2 = Hex.digits 2 regs.af.toNat := rfl
    rw [htrace, hlow]
    refine ⟨_, rfl, regs.read?_low_af, rfl, regs.getElem?_traceChars 0, regs.getElem?_traceChars 5,
      fun k hk => ?_⟩
    have hplace : 61 + k = 60 + (k + 1) := by omega
    rw [← regs.f.getElem?_letters hk, hplace, getElem?_traceChars, List.getElem?_cons_succ]
    exact List.getElem?_append_left hk

/-- AF written as a pair and its carry cleared, against A and the flags written one by one: the
lines are the same, and so are the registers.  The line shows a half carry and no carry. -/
theorem trace_determines_registers_pair :
    let regs := (cleared.setAF 0x12BF).setFlag { carry := true } false
    let regs' : Registers := { a := 0x12, f := { zero := true, halfCarry := true } }
    regs.trace = regs'.trace ∧ regs = regs' ∧ regs.trace.toList[63]? = some 'H' ∧
      regs.trace.toList[64]? = some '-' := by
  intro regs regs'
  obtain ⟨hsame, hshown⟩ := trace_determines_registers
  have htrace : regs.trace = regs'.trace := rfl
  have hbyte : regs.f.toByte.toNat = 0xA0 := rfl
  obtain ⟨byte, -, -, rfl, -, -, hflags⟩ := hshown regs
  rw [hbyte] at hflags
  exact ⟨htrace, (hsame regs regs').mp htrace, hflags 2 (by decide), hflags 3 (by decide)⟩

end Registers

end DmgCore
