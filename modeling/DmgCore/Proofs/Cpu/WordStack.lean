import Mathlib.Order.Bounds.Basic
import DmgCore.Cpu.Machine
import DmgCore.Proofs.Bus.WordAccess

/-!
The words on the stack, which are those of a list that grows and shrinks at its front.

The stack grows towards address `0`, and the address below `0` is `0xFFFF`; so `32768` words
below any address are as many as there is memory for, and no two of them overlap.

* `StackCall`: a push or a pop; `StackCall.onMachine` and `StackCall.onList` say what it does
  to a machine and to a list, and what it answers;
* `StackCall.depth`, `StackCall.peak`: how many words a list of calls leaves on the stack, and
  how many were there at most;
* `HoldsWords`: words lie in memory below an address, the first one lowest;
* `Machine.Stacked`: what a machine has in common with the one that the calls began with;
  `Machine.Stacked.call` is one call, `Machine.Stacked.run` any number of them;
* `Machine.stack_answers_as_list`: the statements together.
-/

namespace DmgCore

/-! ### Addresses below an address -/

namespace Word

/-- The address `n` places below another. -/
def below (w : UInt16) (n : ℕ) : UInt16 := w - UInt16.ofNat n

lemma toNat_below (w : UInt16) (n : ℕ) :
    ((below w n).toNat : ℤ) = ((w.toNat : ℤ) - n) % 65536 := by
  have hw := w.toNat_lt
  rw [below, UInt16.toNat_sub, UInt16.toNat_ofNat']
  omega

@[simp] lemma below_zero (w : UInt16) : below w 0 = w := UInt16.sub_zero w

/-- As many places as there are addresses are all different. -/
lemma below_inj {w : UInt16} {i j : ℕ} (h : below w i = below w j) (hi : 1 ≤ i)
    (hi' : i ≤ 65536) (hj : 1 ≤ j) (hj' : j ≤ 65536) : i = j := by
  have hcast := congrArg (fun addr : UInt16 => (addr.toNat : ℤ)) h
  simp only [toNat_below] at hcast
  omega

/-- Going down by two steps of any length. -/
lemma below_add (w : UInt16) (i j : ℕ) : below w (i + j) = below w i - UInt16.ofNat j := by
  rw [below, below, UInt16.ofNat_add, UInt16.sub_eq_add_neg w, UInt16.neg_add,
    UInt16.sub_eq_add_neg (-_), ← UInt16.add_assoc, ← UInt16.sub_eq_add_neg,
    ← UInt16.sub_eq_add_neg]

/-- One place up again. -/
lemma below_succ_add_one (w : UInt16) (n : ℕ) : below w (n + 1) + 1 = below w n := by
  rw [below_add]
  exact UInt16.sub_add_cancel _ _

/-- The place of the next word. -/
lemma below_sub_two (w : UInt16) (k : ℕ) : below w (2 * k) - 2 = below w (2 * (k + 1)) := by
  rw [Nat.mul_succ, below_add]
  rfl

/-- The place of the word before. -/
lemma below_add_two (w : UInt16) (k : ℕ) : below w (2 * (k + 1)) + 2 = below w (2 * k) := by
  rw [← below_sub_two, UInt16.sub_add_cancel]

end Word

/-! ### Pushing and popping -/

/-- A call of one of the two stack operations. -/
inductive StackCall where
  | push (value : UInt16)
  | pop
  deriving DecidableEq

namespace StackCall

variable {ε σ : Type} [Bus σ]

/-- A machine after a call, and the word that a pop takes from its stack. -/
def onMachine (m : Machine ε σ) : StackCall → Machine ε σ × Option UInt16
  | .push value => (m.push value, none)
  | .pop => (m.pop.2, some m.pop.1)

/-- A list after a call, and the word that a pop takes from its front, if there is one. -/
def onList (words : List UInt16) : StackCall → List UInt16 × Option UInt16
  | .push value => (value :: words, none)
  | .pop => (words.tail, words.head?)

/-- What is left after calls made in order. -/
def after {β : Type} (act : β → StackCall → β × Option UInt16) (state : β)
    (calls : List StackCall) : β :=
  calls.foldl (fun state call => (act state call).1) state

/-- What each of the calls answers, in order. -/
def answers {β : Type} (act : β → StackCall → β × Option UInt16) :
    β → List StackCall → List (Option UInt16)
  | _, [] => []
  | state, call :: calls => (act state call).2 :: answers act (act state call).1 calls

/-- The number of pushes less the number of pops. -/
def depth : List StackCall → ℤ
  | [] => 0
  | .push _ :: calls => depth calls + 1
  | .pop :: calls => depth calls - 1

/-- The greatest depth on the way, which is at least the `0` at the start. -/
def peak : List StackCall → ℕ
  | [] => 0
  | .push _ :: calls => peak calls + 1
  | .pop :: calls => peak calls - 1

/-- No more words are popped than there are, and there are never more than some number of
them, if `start` words are there first. -/
def StaysWithin (start : ℤ) (room : ℕ) (calls : List StackCall) : Prop :=
  ∀ n ≤ calls.length, 0 ≤ start + depth (calls.take n) ∧ start + depth (calls.take n) ≤ room

/-- The depth of a list of calls is that of the first one and of the others. -/
lemma depth_cons (call : StackCall) (calls : List StackCall) :
    depth (call :: calls) = depth [call] + depth calls := by
  cases call with
  | push value => simp only [depth]; omega
  | pop => simp only [depth]; omega

section StaysWithin

variable {start : ℤ} {room : ℕ} {call : StackCall} {calls : List StackCall}

/-- A list of calls that stays within bounds does so from the first call on. -/
lemma StaysWithin.tail (h : StaysWithin start room (call :: calls)) :
    StaysWithin (start + depth [call]) room calls := by
  intro n hn
  have hnext := h (n + 1) (Nat.succ_le_succ hn)
  rw [List.take_succ_cons, depth_cons] at hnext
  omega

/-- The first call stays within bounds. -/
lemma StaysWithin.head (h : StaysWithin start room (call :: calls)) :
    0 ≤ start + depth [call] ∧ start + depth [call] ≤ room := by
  have hfirst := h 1 (Nat.succ_le_succ (Nat.zero_le _))
  rwa [List.take_succ_cons, List.take_zero] at hfirst

/-- The first calls of a list that stays within bounds do so. -/
lemma StaysWithin.take (h : StaysWithin start room calls) (n : ℕ) :
    StaysWithin start room (calls.take n) := by
  intro k hk
  rw [List.take_take]
  rw [List.length_take] at hk
  exact h _ (by omega)

end StaysWithin

/-- No depth on the way exceeds the peak. -/
lemma depth_take_le_peak (calls : List StackCall) (n : ℕ) :
    depth (calls.take n) ≤ peak calls := by
  induction calls generalizing n with
  | nil => rw [List.take_nil]; rfl
  | cons call calls ih =>
      cases n with
      | zero => exact Int.natCast_nonneg _
      | succ n =>
          have hrest := ih n
          cases call with
          | push value => rw [List.take_succ_cons, depth, peak]; omega
          | pop => rw [List.take_succ_cons, depth, peak]; omega

/-- The peak is reached. -/
lemma exists_depth_take_eq_peak (calls : List StackCall) :
    ∃ n ≤ calls.length, depth (calls.take n) = peak calls := by
  induction calls with
  | nil => exact ⟨0, le_rfl, rfl⟩
  | cons call calls ih =>
      obtain ⟨n, hn, hreached⟩ := ih
      cases call with
      | push value =>
          refine ⟨n + 1, Nat.succ_le_succ hn, ?_⟩
          rw [List.take_succ_cons, depth, peak]
          omega
      | pop =>
          by_cases hzero : peak calls = 0
          · -- the calls behind the pop do not come back to where it began
            refine ⟨0, Nat.zero_le _, ?_⟩
            rw [List.take_zero, peak, hzero]
            rfl
          · refine ⟨n + 1, Nat.succ_le_succ hn, ?_⟩
            rw [List.take_succ_cons, depth, peak]
            omega

/-- The peak is the greatest depth that is reached. -/
lemma isGreatest_peak (calls : List StackCall) :
    IsGreatest {reached | ∃ n ≤ calls.length, depth (calls.take n) = reached}
      (peak calls : ℤ) := by
  refine ⟨exists_depth_take_eq_peak calls, ?_⟩
  rintro reached ⟨n, -, rfl⟩
  exact depth_take_le_peak calls n

end StackCall

/-! ### Words in memory -/

/-- Words lie in memory below an address, the first one lowest. -/
def HoldsWords {σ : Type} [Bus σ] (bus : σ) (base : UInt16) : List UInt16 → Prop
  | [] => True
  | first :: rest =>
    Bus.read16 bus (Word.below base (2 * (rest.length + 1))) = first ∧ HoldsWords bus base rest

/-- Words are still there if none of the bytes they take has changed. -/
lemma HoldsWords.congr {σ τ : Type} [Bus σ] [Bus τ] {bus : σ} {bus' : τ} {base : UInt16}
    {words : List UInt16} (h : HoldsWords bus base words)
    (hsame : ∀ n, 1 ≤ n → n ≤ 2 * words.length →
      Bus.read8 bus' (Word.below base n) = Bus.read8 bus (Word.below base n)) :
    HoldsWords bus' base words := by
  induction words with
  | nil => trivial
  | cons first rest ih =>
      rw [List.length_cons] at hsame
      have hfirst : Bus.read16 bus' (Word.below base (2 * (rest.length + 1))) =
          Bus.read16 bus (Word.below base (2 * (rest.length + 1))) := by
        have hnext : Word.below base (2 * (rest.length + 1)) + 1 =
            Word.below base (2 * rest.length + 1) := Word.below_succ_add_one base _
        rw [Bus.read16, Bus.read16, hnext, hsame _ (by omega) (by omega),
          hsame _ (by omega) (by omega)]
      exact ⟨hfirst.trans h.1, ih h.2 fun n hn hn' => hsame n hn (by omega)⟩

/-- The address of one of the bytes that a number of words below an address take. -/
def IsStackByte (base : UInt16) (words : ℕ) (addr : UInt16) : Prop :=
  ∃ n, 1 ≤ n ∧ n ≤ 2 * words ∧ addr = Word.below base n

namespace Machine

variable {ε : Type} {start m : Machine ε FlatMemory} {room : ℕ} {first : UInt16}
  {words : List UInt16}

/-- A push changes the two bytes below SP and no other. -/
lemma read8_push (m : Machine ε FlatMemory) (value addr : UInt16) :
    Bus.read8 (m.push value).bus addr =
      if addr = m.cpu.regs.sp - 2 + 1 then Word.high value
      else if addr = m.cpu.regs.sp - 2 then Word.low value else Bus.read8 m.bus addr :=
  FlatMemory.read8_write16 ..

/-- A machine whose stack holds words that were pushed since it was `start`, of which there were
never more than some number: SP lies below them, and all else is as at the start. -/
structure Stacked (start : Machine ε FlatMemory) (room : ℕ) (words : List UInt16)
    (m : Machine ε FlatMemory) : Prop where
  cpu : m.cpu = (start.setSP (Word.below start.cpu.regs.sp (2 * words.length))).cpu
  holds : HoldsWords m.bus start.cpu.regs.sp words
  other : ∀ addr, ¬ IsStackByte start.cpu.regs.sp room addr →
    Bus.read8 m.bus addr = Bus.read8 start.bus addr

/-- At the start no words were pushed. -/
lemma Stacked.nil (start : Machine ε FlatMemory) (room : ℕ) : Stacked start room [] start := by
  refine ⟨?_, trivial, fun _ _ => rfl⟩
  rw [List.length_nil, Nat.mul_zero, Word.below_zero]
  rfl

lemma Stacked.sp_eq (h : Stacked start room words m) :
    m.cpu.regs.sp = Word.below start.cpu.regs.sp (2 * words.length) := by
  rw [h.cpu]
  rfl

/-- Only SP tells the processor from the one at the start. -/
lemma Stacked.cpu_setSP (h : Stacked start room words m) (addr : UInt16) :
    (m.setSP addr).cpu = (start.setSP addr).cpu := by
  have hset : (m.setSP addr).cpu = { m.cpu with regs := { m.cpu.regs with sp := addr } } := rfl
  rw [hset, h.cpu]
  rfl

/-- A push that finds room puts a word in front of the others. -/
lemma Stacked.push (h : Stacked start room words m) (hroom : words.length + 1 ≤ room)
    (hmemory : room ≤ 32768) (value : UInt16) :
    Stacked start room (value :: words) (m.push value) := by
  have hsp : m.cpu.regs.sp - 2 = Word.below start.cpu.regs.sp (2 * (words.length + 1)) := by
    rw [h.sp_eq, Word.below_sub_two]
  have hnext : m.cpu.regs.sp - 2 + 1 = Word.below start.cpu.regs.sp (2 * words.length + 1) := by
    rw [hsp]
    exact Word.below_succ_add_one _ _
  have hkept : ∀ addr, addr ≠ Word.below start.cpu.regs.sp (2 * (words.length + 1)) →
      addr ≠ Word.below start.cpu.regs.sp (2 * words.length + 1) →
      Bus.read8 (m.push value).bus addr = Bus.read8 m.bus addr := by
    intro addr hlow hhigh
    rw [read8_push, if_neg (by rwa [hnext]), if_neg (by rwa [hsp])]
  refine ⟨?_, ⟨?_, h.holds.congr fun n hn hn' => ?_⟩, fun addr haddr => ?_⟩
  · rw [List.length_cons, ← hsp]
    exact h.cpu_setSP _
  · rw [← hsp]
    exact FlatMemory.read16_write16_self _ _ _
  · -- the words below the new one end where it begins
    refine hkept _ (fun heq => ?_) (fun heq => ?_)
    · exact absurd (Word.below_inj heq hn (by omega) (by omega) (by omega)) (by omega)
    · exact absurd (Word.below_inj heq hn (by omega) (by omega) (by omega)) (by omega)
  · rw [← h.other addr haddr]
    refine hkept _ (fun heq => ?_) (fun heq => ?_)
    · exact haddr ⟨_, by omega, by omega, heq⟩
    · exact haddr ⟨_, by omega, by omega, heq⟩

/-- A pop takes the word in front of the others. -/
lemma Stacked.pop (h : Stacked start room (first :: words) m) :
    m.pop.1 = first ∧ Stacked start room words m.pop.2 := by
  have hsp : m.cpu.regs.sp = Word.below start.cpu.regs.sp (2 * (words.length + 1)) := h.sp_eq
  refine ⟨?_, ?_, h.holds.2, h.other⟩
  · calc m.pop.1 = Bus.read16 m.bus m.cpu.regs.sp := rfl
      _ = first := by rw [hsp, h.holds.1]
  · calc m.pop.2.cpu = (m.setSP (m.cpu.regs.sp + 2)).cpu := rfl
      _ = (start.setSP (Word.below start.cpu.regs.sp (2 * words.length))).cpu := by
          rw [h.cpu_setSP, hsp, Word.below_add_two]

open StackCall in
/-- A call for which there is room, or a word to pop, is answered alike by both. -/
lemma Stacked.call {call : StackCall} (h : Stacked start room words m) (hmemory : room ≤ 32768)
    (hcall : 0 ≤ words.length + depth [call] ∧ words.length + depth [call] ≤ room) :
    (onMachine m call).2 = (onList words call).2 ∧
      Stacked start room (onList words call).1 (onMachine m call).1 ∧
      ((onList words call).1.length : ℤ) = words.length + depth [call] := by
  cases call with
  | push value =>
      simp only [depth] at hcall
      exact ⟨rfl, h.push (by omega) hmemory value, rfl⟩
  | pop =>
      simp only [depth] at hcall
      cases words with
      | nil =>
          rw [List.length_nil] at hcall
          omega
      | cons first words =>
          obtain ⟨hword, hpopped⟩ := h.pop
          refine ⟨congrArg some hword, hpopped, ?_⟩
          simp only [onList, List.tail_cons, List.length_cons, depth]
          omega

open StackCall in
/-- Any number of calls, by induction on their list: each finds what the ones before have left. -/
lemma Stacked.run {calls : List StackCall} (h : Stacked start room words m)
    (hmemory : room ≤ 32768) (hcalls : StaysWithin words.length room calls) :
    answers onMachine m calls = answers onList words calls ∧
      Stacked start room (after onList words calls) (after onMachine m calls) ∧
      ((after onList words calls).length : ℤ) = words.length + depth calls := by
  induction calls generalizing words m with
  | nil => exact ⟨rfl, h, (Int.add_zero _).symm⟩
  | cons call calls ih =>
      obtain ⟨hanswer, hnext, hlength⟩ := h.call hmemory hcalls.head
      obtain ⟨hanswers, hstacked, hdepth⟩ := ih hnext (hlength ▸ hcalls.tail)
      refine ⟨congrArg₂ (· :: ·) hanswer hanswers, hstacked, ?_⟩
      rw [depth_cons, ← Int.add_assoc, ← hlength]
      exact hdepth

/-- What stack calls leave of a machine: SP has gone down by two for each word of their depth,
and nothing else has changed but bytes that a number of words below SP take. -/
structure KeptByCalls (m : Machine ε FlatMemory) (depth : ℤ) (words : ℕ)
    (m' : Machine ε FlatMemory) : Prop where
  sp : (m'.cpu.regs.sp.toNat : ℤ) = ((m.cpu.regs.sp.toNat : ℤ) - 2 * depth) % 65536
  cpu : m'.cpu = (m.setSP m'.cpu.regs.sp).cpu
  other : ∀ addr, ¬ IsStackByte m.cpu.regs.sp words addr →
    Bus.read8 m'.bus addr = Bus.read8 m.bus addr

lemma Stacked.kept (h : Stacked start room words m) {depth : ℤ}
    (hdepth : (words.length : ℤ) = depth) : KeptByCalls start depth room m := by
  refine ⟨?_, ?_, h.other⟩
  · rw [h.sp_eq, Word.toNat_below, ← hdepth]
    push_cast
    rfl
  · rw [h.sp_eq, h.cpu]

open StackCall in
/-- **The stack is a last-in first-out list.**  Let pushes and pops be made in any order, with
never more pops than pushes and never more than `32768` words on the stack at a time.  Each of
them answers as it does on a list that is empty at first.  After each of them SP has gone down
by two for each word on the stack, no other part of the processor has changed, and no byte of
memory outside of those that as many words take below the initial SP as were on the stack at
most. -/
theorem stack_answers_as_list (m : Machine ε FlatMemory) (calls : List StackCall)
    (hcalls : ∀ n ≤ calls.length,
      0 ≤ depth (calls.take n) ∧ depth (calls.take n) ≤ 32768) :
    answers onMachine m calls = answers onList [] calls ∧
    (∀ n ≤ calls.length, KeptByCalls m (depth (calls.take n)) (peak calls)
      (after onMachine m (calls.take n))) ∧
    IsGreatest {reached | ∃ n ≤ calls.length, depth (calls.take n) = reached}
      (peak calls : ℤ) := by
  have hpeak : peak calls ≤ 32768 := by
    obtain ⟨n, hn, hreached⟩ := exists_depth_take_eq_peak calls
    have hbound := (hcalls n hn).2
    omega
  have hwithin : StaysWithin ([] : List UInt16).length (peak calls) calls := by
    intro n hn
    have hreached := depth_take_le_peak calls n
    have hbound := (hcalls n hn).1
    rw [List.length_nil]
    omega
  refine ⟨?_, fun n _ => ?_, isGreatest_peak calls⟩
  · exact ((Stacked.nil m _).run hpeak hwithin).1
  · obtain ⟨-, hstacked, hdepth⟩ := (Stacked.nil m _).run hpeak (hwithin.take n)
    exact hstacked.kept (hdepth.trans (Int.zero_add _))

open StackCall in
/-- Three words, one of which lies in the last and the first byte of memory. -/
theorem stack_answers_as_list_straddling :
    let m : Machine Empty FlatMemory := ⟨⟨{ a := 7, sp := 1 }, true, 0, .empty⟩, .zero, #[]⟩
    let calls : List StackCall := [.push 0x1234, .push 0xBEEF, .pop, .push 0x5678, .pop, .pop]
    answers onMachine m calls =
        [none, none, some 0xBEEF, none, some 0x5678, some 0x1234] ∧
      (after onMachine m calls).cpu.regs = m.cpu.regs ∧
      Bus.read8 (after onMachine m calls).bus 1 = 0 := by
  intro m calls
  obtain ⟨hanswers, hkept, -⟩ := stack_answers_as_list m calls (by decide)
  have hlast : KeptByCalls m 0 2 (after onMachine m calls) := hkept 6 (by decide)
  have hsp : (after onMachine m calls).cpu.regs.sp = m.cpu.regs.sp := by
    have hmod := hlast.sp
    have hlt := m.cpu.regs.sp.toNat_lt
    apply UInt16.toNat_inj.mp
    omega
  refine ⟨hanswers, ?_, ?_⟩
  · calc (after onMachine m calls).cpu.regs
        = (m.setSP (after onMachine m calls).cpu.regs.sp).cpu.regs := congrArg Cpu.regs hlast.cpu
      _ = m.cpu.regs := by rw [hsp]; rfl
  · have houtside : ¬ IsStackByte m.cpu.regs.sp 2 1 := by
      rintro ⟨n, hn, hn', heq⟩
      have hplace := Word.toNat_below m.cpu.regs.sp n
      have hone : (1 : UInt16).toNat = 1 := rfl
      have hsp1 : m.cpu.regs.sp.toNat = 1 := rfl
      rw [← heq] at hplace
      omega
    rw [hlast.other 1 houtside]
    exact FlatMemory.read8_zero 1

end Machine

end DmgCore
