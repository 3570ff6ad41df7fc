import DmgCore.Cpu.Step
import DmgCore.Proofs.Bus.WriteList
import DmgCore.Proofs.Cpu.InterruptBits

/-!
What a step does when it takes an interrupt, and when it does not.

* `Machine.HasWaiting`: interrupts are admitted and some source is both enabled and
  requested; `Machine.exists_pendingInterrupt?_iff` says that this is when one is
  taken, whatever the opcode at PC;
* `Machine.Dispatched`: the machine after the dispatch of a source, with all it
  changes: four parts of the processor and three writes in a fixed order;
* `Machine.step_of_pending`, `Machine.step_of_not_pending`: a step is a dispatch or
  the plain execution of the opcode at PC;
* `Machine.read8_dispatched`: what memory holds after a dispatch, wherever the stack
  lies.
-/

namespace DmgCore

/-- The address before the one above. -/
lemma Word.sub_two_add_one (w : UInt16) : w - 2 + 1 = w - 1 := by
  apply UInt16.toNat_inj.mp
  have hw := w.toNat_lt
  rw [UInt16.toNat_add, UInt16.toNat_sub, UInt16.toNat_sub]
  simp
  omega

/-- The two bytes of a word on the stack lie at different addresses. -/
lemma Word.sub_two_ne_sub_one (w : UInt16) : w - 2 ≠ w - 1 := by
  intro h
  have hsum := congrArg UInt16.toNat (Word.sub_two_add_one w)
  rw [← h, UInt16.toNat_add] at hsum
  have hw := (w - 2).toNat_lt
  have hone : (1 : UInt16).toNat = 1 := rfl
  omega

namespace Machine

variable {ε σ : Type} [Bus σ]

/-! ### When an interrupt is taken -/

/-- The byte in IF. -/
def requestBits (m : Machine ε σ) : UInt8 := Bus.read8 m.bus MemoryMap.interruptRequest

/-- The byte in IE. -/
def enableBits (m : Machine ε σ) : UInt8 := Bus.read8 m.bus MemoryMap.interruptEnable

/-- The bits of the sources that are both enabled and requested. -/
def waitingBits (m : Machine ε σ) : UInt8 := m.enableBits &&& m.requestBits &&& 0x1F

/-- Interrupts are admitted and there is one to take. -/
def HasWaiting (m : Machine ε σ) : Prop := m.cpu.ime = true ∧ m.waitingBits ≠ 0

/-- The lowest bit set among the waiting ones. -/
structure IsLowestWaiting (m : Machine ε σ) (i : ℕ) : Prop where
  lt_five : i < 5
  isSet : m.waitingBits.toNat.testBit i = true
  lower : ∀ j < i, m.waitingBits.toNat.testBit j = false

lemma testBit_waitingBits (m : Machine ε σ) {i : ℕ} (hi : i < 5) :
    m.waitingBits.toNat.testBit i = m.pendingBits.toNat.testBit i := by
  rw [waitingBits, Interrupt.testBit_and_low, decide_eq_true hi, Bool.and_true]
  rfl

/-- What is taken is the most urgent of the pending sources, if interrupts are admitted. -/
lemma pendingInterrupt?_eq_some_iff {m : Machine ε σ} {source : Interrupt} :
    m.pendingInterrupt? = some source ↔
      m.cpu.ime = true ∧ Interrupt.mostUrgent? m.pendingBits = some source := by
  rw [pendingInterrupt?]
  cases m.cpu.ime with
  | false => simp
  | true => simp

/-- An interrupt is taken just when interrupts are admitted and one is waiting. -/
lemma exists_pendingInterrupt?_iff (m : Machine ε σ) :
    (∃ source, m.pendingInterrupt? = some source) ↔ m.HasWaiting := by
  have hnone : Interrupt.mostUrgent? m.pendingBits = none ↔ m.waitingBits = 0 :=
    Interrupt.mostUrgent?_eq_none_iff _
  rw [pendingInterrupt?, HasWaiting]
  cases m.cpu.ime with
  | false => simp
  | true =>
      rw [if_pos rfl, ← Option.ne_none_iff_exists', ne_eq, hnone]
      simp

/-- No interrupt is taken just when none is waiting. -/
lemma pendingInterrupt?_eq_none_iff (m : Machine ε σ) :
    m.pendingInterrupt? = none ↔ ¬ m.HasWaiting := by
  rw [← exists_pendingInterrupt?_iff, ← Option.ne_none_iff_exists', not_not]

/-- With interrupts masked none is taken. -/
lemma pendingInterrupt?_of_masked {m : Machine ε σ} (hmasked : m.cpu.ime = false) :
    m.pendingInterrupt? = none := by
  rw [pendingInterrupt?, hmasked]
  rfl

/-- The source that is taken owns the lowest of the waiting bits. -/
lemma isLowestWaiting_of_pending {m : Machine ε σ} {source : Interrupt}
    (h : m.pendingInterrupt? = some source) : m.IsLowestWaiting source.index := by
  obtain ⟨-, hurgent⟩ := pendingInterrupt?_eq_some_iff.mp h
  obtain ⟨hset, hlower⟩ := (Interrupt.mostUrgent?_eq_some_iff _ _).mp hurgent
  refine ⟨source.index_lt, ?_, fun j hj => ?_⟩
  · rw [testBit_waitingBits m source.index_lt]
    exact hset
  · have hsource := source.index_lt
    obtain ⟨other, rfl⟩ := Interrupt.exists_index_eq (show j < 5 by omega)
    rw [testBit_waitingBits m (by omega)]
    exact hlower other hj

/-! ### The effect of a dispatch -/

/-- The writes that the dispatch of the source with number `i` makes, in order: the
source's bit is cleared in IF, then PC goes on the stack, low byte first. -/
def dispatchWrites (m : Machine ε σ) (i : ℕ) : List (UInt16 × UInt8) :=
  [(MemoryMap.interruptRequest, m.requestBits &&& ~~~(UInt8.ofNat (1 <<< i))),
    (m.cpu.regs.sp - 2, Word.low m.cpu.regs.pc),
    (m.cpu.regs.sp - 1, Word.high m.cpu.regs.pc)]

/-- The machine `m'` is what the dispatch of the source with number `i` makes of `m`. -/
structure Dispatched (m : Machine ε σ) (i : ℕ) (m' : Machine ε σ) : Prop where
  regs : m'.cpu.regs =
    { m.cpu.regs with pc := UInt16.ofNat (0x40 + 8 * i), sp := m.cpu.regs.sp - 2 }
  ime : m'.cpu.ime = false
  clock : m'.cpu.clock = 20
  tables : m'.cpu.tables = m.cpu.tables
  bus : m'.bus = Bus.writeAll m.bus (m.dispatchWrites i)
  log : ∃ text, m'.log = m.log.push ⟨.debug, text⟩

variable [InstructionSet ε]

/-- A step with an interrupt to take is its dispatch. -/
lemma step_of_pending {m : Machine ε σ} {source : Interrupt}
    (h : m.pendingInterrupt? = some source) :
    ∃ m', m.step = some (m', .ok 20) ∧ m.Dispatched source.index m' := by
  have hrestart : m.restartClock.pendingInterrupt? = some source := h
  refine ⟨(m.restartClock.serviceInterrupt source).charge interruptCycles, ?_, ?_⟩
  · rw [step, stepWithin, hrestart]
    rfl
  · refine ⟨rfl, rfl, rfl, rfl, ?_, _, rfl⟩
    rw [dispatchWrites, ← Word.sub_two_add_one]
    rfl

/-- With an interrupt waiting the step is the dispatch of the most urgent one. -/
lemma exists_dispatched {m : Machine ε σ} (h : m.HasWaiting) :
    ∃ source m', m.IsLowestWaiting (Interrupt.index source) ∧ m.step = some (m', .ok 20) ∧
      m.Dispatched source.index m' := by
  obtain ⟨source, hsource⟩ := (exists_pendingInterrupt?_iff m).mpr h
  obtain ⟨m', hstep, hdispatched⟩ := step_of_pending hsource
  exact ⟨source, m', isLowestWaiting_of_pending hsource, hstep, hdispatched⟩

/-- A step without an interrupt to take is the execution of the opcode at PC. -/
lemma step_of_not_pending {m : Machine ε σ} (h : m.pendingInterrupt? = none) :
    m.step = m.restartClock.executeWithin prefixCycle := by
  have hrestart : m.restartClock.pendingInterrupt? = none := h
  rw [step, stepWithin, hrestart]

/-! ### Memory after a dispatch -/

omit [InstructionSet ε] in
/-- What memory holds after a dispatch: PC on the stack, IF without the bit of the source,
and else what it held before.  Where a byte of PC falls on a register, that byte is found. -/
lemma read8_dispatched {m m' : Machine ε FlatMemory} {i : ℕ} (h : m.Dispatched i m')
    (addr : UInt16) :
    Bus.read8 m'.bus addr =
      if addr = m.cpu.regs.sp - 1 then Word.high m.cpu.regs.pc
      else if addr = m.cpu.regs.sp - 2 then Word.low m.cpu.regs.pc
      else if addr = MemoryMap.interruptRequest then
        m.requestBits &&& ~~~(UInt8.ofNat (1 <<< i))
      else Bus.read8 m.bus addr := by
  rw [h.bus, dispatchWrites]
  simp only [Bus.writeAll_cons, Bus.writeAll_nil, FlatMemory.read8_write8]

/-- The bytes of memory after the dispatch of the source with number `i`: the two stack
bytes are those of PC, even on IF or IE; IF else loses just the bit of the source; every
other byte stays. -/
structure MemoryDispatched (m : Machine ε FlatMemory) (i : ℕ) (mem : FlatMemory) : Prop where
  low : Bus.read8 mem (m.cpu.regs.sp - 2) = Word.low m.cpu.regs.pc
  high : Bus.read8 mem (m.cpu.regs.sp - 1) = Word.high m.cpu.regs.pc
  request : m.cpu.regs.sp - 2 ≠ MemoryMap.interruptRequest →
    m.cpu.regs.sp - 1 ≠ MemoryMap.interruptRequest → ∀ j,
      (Bus.read8 mem MemoryMap.interruptRequest).toNat.testBit j =
        (m.requestBits.toNat.testBit j && decide (j ≠ i))
  other : ∀ addr, addr ≠ MemoryMap.interruptRequest → addr ≠ m.cpu.regs.sp - 2 →
    addr ≠ m.cpu.regs.sp - 1 → Bus.read8 mem addr = Bus.read8 m.bus addr

omit [InstructionSet ε] in
lemma Dispatched.memory {m m' : Machine ε FlatMemory} {source : Interrupt}
    (h : m.Dispatched source.index m') : m.MemoryDispatched source.index m'.bus := by
  refine ⟨?_, ?_, fun hlow hhigh j => ?_, fun addr hrequest hlow hhigh => ?_⟩
  · rw [read8_dispatched h, if_neg (Word.sub_two_ne_sub_one _), if_pos rfl]
  · rw [read8_dispatched h, if_pos rfl]
  · rw [read8_dispatched h, if_neg hhigh.symm, if_neg hlow.symm, if_pos rfl]
    exact Interrupt.testBit_acknowledge _ source j
  · rw [read8_dispatched h, if_neg hhigh, if_neg hlow, if_neg hrequest]

/-- **A step takes an interrupt just when one is waiting, and then the most urgent one.**
With interrupts admitted and a bit set in both IE and IF, the step costs `20` cycles and
is the dispatch of the source with the lowest such bit, whatever stands at PC: the
machine is as `Dispatched` says, flat memory as `MemoryDispatched` says, and a space that
records its writes shows the three of `dispatchWrites` and no other.  In every other case
the step is the execution of the opcode at PC. -/
theorem step_dispatches_iff_hasWaiting (m : Machine ε σ) (flat : Machine ε FlatMemory)
    (recorded : Machine ε (Recorded σ)) :
    ((∃ source, m.pendingInterrupt? = some source) ↔ m.HasWaiting) ∧
    (m.HasWaiting → ∃ i m', m.IsLowestWaiting i ∧ m.step = some (m', .ok 20) ∧
      m.Dispatched i m') ∧
    (flat.HasWaiting → ∃ i flat', flat.IsLowestWaiting i ∧ flat.step = some (flat', .ok 20) ∧
      flat.Dispatched i flat' ∧ flat.MemoryDispatched i flat'.bus) ∧
    (recorded.HasWaiting → ∃ i recorded', recorded.IsLowestWaiting i ∧
      recorded.step = some (recorded', .ok 20) ∧
      recorded'.bus.writes = recorded.bus.writes ++ (recorded.dispatchWrites i).toArray) ∧
    (¬ m.HasWaiting → m.step = m.restartClock.executeWithin prefixCycle) := by
  refine ⟨exists_pendingInterrupt?_iff m, fun h => ?_, fun h => ?_, fun h => ?_, fun h => ?_⟩
  · obtain ⟨source, m', hlowest, hstep, hdispatched⟩ := exists_dispatched h
    exact ⟨_, m', hlowest, hstep, hdispatched⟩
  · obtain ⟨source, flat', hlowest, hstep, hdispatched⟩ := exists_dispatched h
    exact ⟨_, flat', hlowest, hstep, hdispatched, hdispatched.memory⟩
  · obtain ⟨source, recorded', hlowest, hstep, hdispatched⟩ := exists_dispatched h
    refine ⟨_, recorded', hlowest, hstep, ?_⟩
    rw [hdispatched.bus, Recorded.writes_writeAll]
  · refine step_of_not_pending (Option.eq_none_iff_forall_not_mem.mpr fun source hsource => ?_)
    exact h ((exists_pendingInterrupt?_iff m).mp ⟨source, hsource⟩)

/-- A dispatch whose return address falls on IF, with no opcode registered at PC: the timer
is served, and the byte of PC found in IF asks for other sources than before. -/
theorem step_dispatches_onto_request :
    let mem := Bus.write8 (Bus.write8 FlatMemory.zero MemoryMap.interruptEnable 0x1F)
      MemoryMap.interruptRequest 0xE4
    let m : Machine Empty FlatMemory :=
      ⟨⟨{ pc := 0x1234, sp := 0xFF11 }, true, 7, .empty⟩, mem, #[]⟩
    m.HasWaiting ∧ ∃ m', m.step = some (m', .ok 20) ∧ m'.cpu.regs.pc = 0x50 ∧
      Bus.read8 m'.bus MemoryMap.interruptRequest = 0x34 := by
  intro mem m
  have hrequest : Bus.read8 mem MemoryMap.interruptRequest = 0xE4 :=
    FlatMemory.read8_write8_self ..
  have henable : Bus.read8 mem MemoryMap.interruptEnable = 0x1F := by
    rw [FlatMemory.read8_write8_of_ne _ (by decide), FlatMemory.read8_write8_self]
  have hbits : m.waitingBits = 4 := by
    rw [waitingBits, requestBits, enableBits, hrequest, henable]
    decide
  have hwaiting : m.HasWaiting := ⟨rfl, by rw [hbits]; decide⟩
  obtain ⟨-, -, hflat, -, -⟩ := step_dispatches_iff_hasWaiting m m
    (⟨m.cpu, ⟨mem, #[]⟩, #[]⟩ : Machine Empty (Recorded FlatMemory))
  obtain ⟨i, m', hlowest, hstep, hdispatched, hmemory⟩ := hflat hwaiting
  have hi : i = 2 := by
    have hset := hlowest.isSet
    rw [hbits] at hset
    have honly : ∀ j : Fin 5, (4 : UInt8).toNat.testBit j.val = true → j.val = 2 := by decide
    exact honly ⟨i, hlowest.lt_five⟩ hset
  subst hi
  have hstack : m.cpu.regs.sp - 2 = MemoryMap.interruptRequest := by decide
  have hbyte : Word.low m.cpu.regs.pc = 0x34 := by decide
  refine ⟨hwaiting, m', hstep, ?_, ?_⟩
  · rw [hdispatched.regs]
    rfl
  · rw [← hstack, hmemory.low, hbyte]

end Machine

end DmgCore
