import Mathlib.Data.Nat.Find
import DmgCore.Proofs.Cpu.InterruptDispatch
import DmgCore.Proofs.Cpu.LookUps

/-!
Prefixes that follow one another, and when a step that meets them ends.

The extended table may lead back to itself, and then the bytes behind PC decide how far
a step goes: each prefix takes two bytes, the second of which is looked up. As PC wraps,
prefix number `k` is where prefix number `k + 32768` is.

* `Machine.prefixLookUp`: the look-up behind prefix number `k`, with all that has changed
  before it, PC and the clock;
* `Machine.lookUp?_of_prefixes`: it is the one that the step makes, if the look-ups
  before it have found prefixes;
* `Machine.exists_exit_lt`: a chain of prefixes with an end has it within one cycle;
* `Machine.EndsAt`: what a step does whose chain ends at prefix number `k`;
* `Machine.step_follows_prefixes`: a step whose chain ends is as `EndsAt` says, and a
  step whose chain has no end does not end.
-/

namespace DmgCore

namespace Machine

variable {ε σ : Type} [Bus σ]

/-! ### The chain in memory -/

/-- The address of prefix number `k`. -/
def prefixAddress (m : Machine ε σ) (k : ℕ) : UInt16 := m.cpu.regs.pc + UInt16.ofNat (2 * k)

/-- The opcode behind prefix number `k`. -/
def prefixedOpcode (m : Machine ε σ) (k : ℕ) : UInt8 :=
  Bus.read8 m.bus (m.cpu.regs.pc + 1 + UInt16.ofNat (2 * k))

/-- What the extended table holds for the opcode behind prefix number `k`. -/
def prefixedHandler? (m : Machine ε σ) (k : ℕ) : Option (Handler ε) :=
  m.cpu.tables.extended? (m.prefixedOpcode k)

/-- The machine at prefix number `k`: PC has moved, and the clock counts from zero. -/
def atPrefix (m : Machine ε σ) (k : ℕ) : Machine ε σ :=
  { m with cpu := { m.cpu with regs := { m.cpu.regs with pc := m.prefixAddress k }, clock := 0 } }

/-- The look-up behind prefix number `k`, with PC past the opcode. -/
def prefixLookUp (m : Machine ε σ) (k : ℕ) : LookUp ε σ :=
  ⟨m.prefixedOpcode k, m.prefixAddress k, m.atPrefix (k + 1)⟩

/-- The chain of prefixes ends at number `k`, the first one whose opcode is not itself
a prefix. -/
structure IsExit (m : Machine ε σ) (k : ℕ) : Prop where
  exit : m.prefixedHandler? k ≠ some .prefixCB
  before : ∀ j < k, m.prefixedHandler? j = some .prefixCB

omit [Bus σ] in
lemma prefixAddress_zero (m : Machine ε σ) : m.prefixAddress 0 = m.cpu.regs.pc :=
  UInt16.add_zero _

omit [Bus σ] in
/-- Each prefix takes two bytes. -/
lemma prefixAddress_succ (m : Machine ε σ) (k : ℕ) :
    m.prefixAddress (k + 1) = m.prefixAddress k + 1 + 1 := by
  rw [prefixAddress, prefixAddress, Nat.mul_succ, UInt16.ofNat_add, UInt16.add_assoc _ 1 1,
    ← UInt16.add_assoc]
  rfl

lemma prefixedOpcode_eq (m : Machine ε σ) (k : ℕ) :
    m.prefixedOpcode k = Bus.read8 m.bus (m.prefixAddress k + 1) := by
  rw [prefixedOpcode, prefixAddress, UInt16.add_assoc, UInt16.add_comm 1, ← UInt16.add_assoc]

omit [Bus σ] in
lemma atPrefix_zero (m : Machine ε σ) : m.atPrefix 0 = m.restartClock := by
  rw [atPrefix, prefixAddress_zero]
  rfl

/-- The chain repeats itself when PC has gone round. -/
lemma prefixedHandler?_mod (m : Machine ε σ) (k : ℕ) :
    m.prefixedHandler? (k % 32768) = m.prefixedHandler? k := by
  have haddr : UInt16.ofNat (2 * (k % 32768)) = UInt16.ofNat (2 * k) := by
    rw [← UInt16.toNat_inj, UInt16.toNat_ofNat', UInt16.toNat_ofNat']
    omega
  rw [prefixedHandler?, prefixedHandler?, prefixedOpcode, prefixedOpcode, haddr]

/-- A chain of prefixes that has an end has it within one cycle. -/
lemma exists_exit_lt {m : Machine ε σ} {k : ℕ} (h : m.prefixedHandler? k ≠ some .prefixCB) :
    ∃ j < 32768, m.prefixedHandler? j ≠ some .prefixCB :=
  ⟨k % 32768, Nat.mod_lt k (by decide), by rwa [prefixedHandler?_mod]⟩

lemma IsExit.lt {m : Machine ε σ} {k : ℕ} (h : m.IsExit k) : k < 32768 := by
  obtain ⟨j, hj, hexit⟩ := exists_exit_lt h.exit
  have hle : k ≤ j := Nat.not_lt.mp fun hlt => hexit (h.before j hlt)
  omega

/-- A chain of prefixes that has an end has a first one. -/
lemma exists_isExit {m : Machine ε σ} {k : ℕ} (h : m.prefixedHandler? k ≠ some .prefixCB) :
    ∃ j, m.IsExit j := by
  classical
  have hexists : ∃ j, m.prefixedHandler? j ≠ some .prefixCB := ⟨k, h⟩
  exact ⟨Nat.find hexists, Nat.find_spec hexists, fun j hj => not_not.mp (Nat.find_min hexists hj)⟩

/-! ### The chain as it is run -/

/-- Running a prefix goes past it and its opcode, which is to be looked up. -/
lemma execPrefix_atPrefix (m : Machine ε σ) (k : ℕ) :
    Handler.execPrefix (m.atPrefix k) =
      (m.atPrefix (k + 1), .extended (m.prefixedOpcode k) (m.prefixAddress k)) := by
  rw [prefixedOpcode_eq, atPrefix, atPrefix, prefixAddress_succ]
  rfl

variable [InstructionSet ε]

lemma ofEnding?_prefixCB (m : Machine ε σ) (k : ℕ) :
    LookUp.ofEnding? (Handler.prefixCB.exec (m.atPrefix k)) = some (m.prefixLookUp k) := by
  rw [Handler.exec, execPrefix_atPrefix]
  rfl

/-- A look-up that finds a prefix is followed by the look-up behind it. -/
lemma next?_prefixLookUp {m : Machine ε σ} {k : ℕ}
    (h : m.prefixedHandler? k = some .prefixCB) :
    (m.prefixLookUp k).next? = some (m.prefixLookUp (k + 1)) := by
  have hfound : (m.prefixLookUp k).handler? = some .prefixCB := h
  rw [LookUp.next?, hfound]
  exact ofEnding?_prefixCB m (k + 1)

/-- A step that begins with a prefix makes the look-ups behind the prefixes of the chain,
up to the first opcode that is not a prefix. -/
lemma lookUp?_of_prefixes {m : Machine ε σ} {n : ℕ}
    (hstart : m.cpu.tables.primary? (Bus.read8 m.bus m.cpu.regs.pc) = some .prefixCB)
    (h : ∀ j < n, m.prefixedHandler? j = some .prefixCB) :
    m.lookUp? n = some (m.prefixLookUp n) := by
  induction n with
  | zero =>
      rw [lookUp?, hstart, Option.bind_some, ← atPrefix_zero, ofEnding?_prefixCB]
      rfl
  | succ n ih =>
      rw [lookUp?_succ (ih fun j hj => h j (Nat.lt_trans hj n.lt_succ_self)),
        next?_prefixLookUp (h n n.lt_succ_self)]

/-! ### What a step does -/

/-- What a step does whose chain of prefixes ends at number `k`, with `n` look-ups allowed;
`Machine.step` allows `prefixCycle`. -/
structure EndsAt (m : Machine ε σ) (k : ℕ) : Prop where
  /-- Up to there the look-ups are those behind the prefixes. -/
  lookUp?_eq : ∀ j ≤ k, m.lookUp? j = some (m.prefixLookUp j)
  /-- Fewer look-ups do not suffice. -/
  not_before : ∀ n ≤ k, m.stepWithin n = none
  /-- If no handler is found, the step fails there, whatever look-ups it is allowed. -/
  empty : m.prefixedHandler? k = none → ∀ n, k < n → m.stepWithin n =
    some ((m.atPrefix (k + 1)).reportUnregisteredExtended (m.prefixedOpcode k) (m.prefixAddress k),
      .error (.noExtendedHandler (m.prefixedOpcode k) (m.prefixAddress k)))
  /-- If a handler is found, the step is a call of it with the look-ups that are left. -/
  found : ∀ handler, m.prefixedHandler? k = some handler → ∀ n, k < n → m.stepWithin n =
    (callWithin (n - (k + 1)) handler (m.atPrefix (k + 1))).map withCycles
  /-- A handler that completes is run once, and the step reports the cycles it leaves. -/
  completed : ∀ handler next, m.prefixedHandler? k = some handler →
    handler.exec (m.atPrefix (k + 1)) = (next, .done) →
    ∀ n, k < n → m.stepWithin n = some (next, .ok next.cpu.clock)
  /-- A handler that fails is run once, and the step fails as it does. -/
  failed : ∀ handler next fault, m.prefixedHandler? k = some handler →
    handler.exec (m.atPrefix (k + 1)) = (next, .failed fault) →
    ∀ n, k < n → m.stepWithin n = some (next, .error fault)
  /-- There is one look-up more only if an instruction of the embedding system is found
  and asks for it. -/
  more : ∀ l, m.lookUp? (k + 1) = some l → ∃ instruction,
    m.prefixedHandler? k = some (.custom instruction) ∧
    LookUp.ofEnding? (InstructionSet.exec instruction (m.atPrefix (k + 1))) = some l

/-- Only two kinds of handler hand over to the extended table. -/
lemma exists_custom_of_ofEnding? {handler : Handler ε} {m : Machine ε σ} {l : LookUp ε σ}
    (h : LookUp.ofEnding? (handler.exec m) = some l) (hne : handler ≠ .prefixCB) :
    ∃ instruction, handler = .custom instruction ∧
      LookUp.ofEnding? (InstructionSet.exec instruction m) = some l := by
  cases handler with
  | custom instruction => exact ⟨instruction, rfl, h⟩
  | prefixCB => exact absurd rfl hne
  | nop => exact absurd h (Option.some_ne_none l).symm
  | di => exact absurd h (Option.some_ne_none l).symm
  | ei => exact absurd h (Option.some_ne_none l).symm
  | reti => exact absurd h (Option.some_ne_none l).symm

section Exit

variable {m : Machine ε σ} {k : ℕ} (h : m.IsExit k) (hidle : m.pendingInterrupt? = none)
  (hstart : m.cpu.tables.primary? (Bus.read8 m.bus m.cpu.regs.pc) = some .prefixCB)

include h hstart

lemma IsExit.lookUp?_eq {j : ℕ} (hj : j ≤ k) : m.lookUp? j = some (m.prefixLookUp j) :=
  lookUp?_of_prefixes hstart fun i hi => h.before i (Nat.lt_of_lt_of_le hi hj)

include hidle

/-- A step with enough look-ups makes the one at the end of the chain. -/
lemma IsExit.stepWithin_eq {n : ℕ} (hn : k < n) :
    m.stepWithin n =
      (runExtended (n - (k + 1) + 1) (m.prefixedOpcode k) (m.prefixAddress k)
        (m.atPrefix (k + 1))).map withCycles := by
  obtain ⟨left, rfl⟩ : ∃ left, n = k + (left + 1) := ⟨n - (k + 1), by omega⟩
  rw [stepWithin_of_lookUp? hidle (h.lookUp?_eq hstart le_rfl), ← Nat.add_assoc,
    Nat.add_right_comm, Nat.add_sub_cancel_left]
  rfl

/-- A step with enough look-ups calls the handler at the end of the chain. -/
lemma IsExit.stepWithin_of_handler {handler : Handler ε}
    (hfound : m.prefixedHandler? k = some handler) {n : ℕ} (hn : k < n) :
    m.stepWithin n = (callWithin (n - (k + 1)) handler (m.atPrefix (k + 1))).map withCycles := by
  have hslot : (m.atPrefix (k + 1)).cpu.tables.extended? (m.prefixedOpcode k) = some handler :=
    hfound
  rw [h.stepWithin_eq hidle hstart hn, runExtended_of_some _ _ hslot]

/-- A step that begins with a prefix ends at the first opcode that is not a prefix. -/
lemma IsExit.endsAt : m.EndsAt k where
  lookUp?_eq j hj := h.lookUp?_eq hstart hj
  not_before n hn := (stepWithin_eq_none_iff hidle n).mpr ⟨_, h.lookUp?_eq hstart hn⟩
  empty hempty n hn := by
    have hslot : (m.atPrefix (k + 1)).cpu.tables.extended? (m.prefixedOpcode k) = none := hempty
    rw [h.stepWithin_eq hidle hstart hn, runExtended_of_none _ _ hslot]
    rfl
  found handler hfound n hn := h.stepWithin_of_handler hidle hstart hfound hn
  completed handler next hfound hexec n hn := by
    rw [h.stepWithin_of_handler hidle hstart hfound hn, callWithin_eq, hexec]
    rfl
  failed handler next fault hfound hexec n hn := by
    rw [h.stepWithin_of_handler hidle hstart hfound hn, callWithin_eq, hexec]
    rfl
  more l hl := by
    rw [lookUp?_succ (h.lookUp?_eq hstart le_rfl)] at hl
    obtain ⟨handler, hfound, hnext⟩ := Option.bind_eq_some_iff.mp hl
    -- a prefix found here would carry the chain on
    have hne : handler ≠ .prefixCB := by
      rintro rfl
      exact h.exit hfound
    obtain ⟨instruction, rfl, hasks⟩ := exists_custom_of_ofEnding? hnext hne
    exact ⟨instruction, hfound, hasks⟩

end Exit

/-- **A step follows its prefixes to the first opcode that is not one.**  Let no interrupt
be waiting and PC be at a prefix, whatever the tables hold else.  If the chain of prefixes
ends at number `k`, then `k` is below `32768` and the step is as `EndsAt` says: it comes
there with nothing changed but PC and the clock, and then it is a call of the handler that
is found or the fault that there is none.  The chain ends if one of the first `32768`
opcodes is not a prefix.  If it has no end, the step has none: every look-up finds a
prefix, and no number of them suffices.  If the extended table does not lead back to
itself, the chain ends at its first prefix. -/
theorem step_follows_prefixes {m : Machine ε σ} (hidle : ¬ m.HasWaiting)
    (hstart : m.cpu.tables.primary? (Bus.read8 m.bus m.cpu.regs.pc) = some .prefixCB) :
    (∀ k, m.IsExit k → k < prefixCycle ∧ m.EndsAt k) ∧
    ((∃ k, m.IsExit k) ↔ ∃ k < 32768, m.prefixedHandler? k ≠ some .prefixCB) ∧
    ((¬ ∃ k, m.IsExit k) → ∀ n, m.stepWithin n = none ∧
      m.lookUp? n = some (m.prefixLookUp n) ∧ m.prefixedHandler? n = some .prefixCB) ∧
    ((∀ opcode, m.cpu.tables.extended? opcode ≠ some .prefixCB) → m.IsExit 0) := by
  have hpending := (pendingInterrupt?_eq_none_iff m).mpr hidle
  refine ⟨fun k hexit => ⟨hexit.lt, hexit.endsAt hpending hstart⟩, ⟨?_, ?_⟩, fun hnone => ?_,
    fun hfree => ⟨hfree _, fun j hj => absurd hj j.not_lt_zero⟩⟩
  · rintro ⟨k, hexit⟩
    exact ⟨k, hexit.lt, hexit.exit⟩
  · rintro ⟨k, -, hexit⟩
    exact exists_isExit hexit
  · have hall : ∀ n, m.prefixedHandler? n = some .prefixCB := fun n =>
      not_not.mp fun hexit => hnone (exists_isExit hexit)
    intro n
    have hlookUp := lookUp?_of_prefixes (n := n) hstart fun j _ => hall j
    exact ⟨(stepWithin_eq_none_iff hpending n).mpr ⟨_, hlookUp⟩, hlookUp, hall n⟩

/-- A prefix at the end of memory whose opcode is a prefix again, and behind it, past the
wrap of PC, the way to admit interrupts: the step costs the cycles of that one handler. -/
theorem step_follows_prefixes_nested :
    let mem := Bus.write8 (Bus.write8 (Bus.write8 FlatMemory.zero 0xFFFE 0xCB) 0xFFFF 0x11)
      0x0001 0x22
    let tables := (OpcodeTables.empty.insertExtended 0x11 .prefixCB).insertExtended 0x22 .ei
    let m : Machine Empty FlatMemory := ⟨⟨{ pc := 0xFFFE }, false, 7, tables⟩, mem, #[]⟩
    ¬ m.HasWaiting ∧ m.cpu.tables.primary? (Bus.read8 m.bus m.cpu.regs.pc) = some .prefixCB ∧
      ∃ m', m.step = some (m', .ok 4) ∧ m'.cpu.regs.pc = 3 ∧ m'.cpu.ime = true := by
  intro mem tables m
  have hbytes : ∀ addr, Bus.read8 mem addr =
      if addr = 0x0001 then 0x22 else if addr = 0xFFFF then 0x11
      else if addr = 0xFFFE then 0xCB else 0 := by
    intro addr
    simp only [mem, FlatMemory.read8_write8, FlatMemory.read8_zero]
  have hslots : ∀ opcode, tables.extended? opcode =
      if opcode = 0x22 then some .ei else if opcode = 0x11 then some .prefixCB
      else OpcodeTables.empty.extended? opcode := by
    intro opcode
    simp only [tables, OpcodeTables.extended?_insertExtended]
  have hidle : ¬ m.HasWaiting := fun h => absurd h.1 Bool.false_ne_true
  have hstart : m.cpu.tables.primary? (Bus.read8 m.bus m.cpu.regs.pc) = some .prefixCB := by
    have hbyte : Bus.read8 m.bus m.cpu.regs.pc = prefixOpcode := hbytes 0xFFFE
    rw [hbyte, OpcodeTables.primary?_prefixOpcode]
  have hfirst : m.prefixedHandler? 0 = some .prefixCB := by
    have hbyte : m.prefixedOpcode 0 = 0x11 := hbytes 0xFFFF
    rw [prefixedHandler?, hbyte]
    exact hslots 0x11
  have hsecond : m.prefixedHandler? 1 = some .ei := by
    have haddr : m.cpu.regs.pc + 1 + UInt16.ofNat (2 * 1) = 0x0001 := by decide
    have hbyte : m.prefixedOpcode 1 = 0x22 := by
      rw [prefixedOpcode, haddr]
      exact hbytes 0x0001
    rw [prefixedHandler?, hbyte]
    exact hslots 0x22
  have hexit : m.IsExit 1 := by
    refine ⟨by simp [hsecond], fun j hj => ?_⟩
    obtain rfl : j = 0 := by omega
    exact hfirst
  obtain ⟨hends, -, -, -⟩ := step_follows_prefixes hidle hstart
  have hstep := (hends 1 hexit).2.completed .ei _ hsecond rfl prefixCycle (by decide)
  have hpc : m.prefixAddress 2 + 1 = 3 := by decide
  exact ⟨hidle, hstart, _, hstep, hpc, rfl⟩

end Machine

end DmgCore
