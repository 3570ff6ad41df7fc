import DmgCore.Proofs.Cpu.Run

/-!
Several interrupts at once, each of whose handlers returns immediately.

* `Machine.step_reti`, `Machine.Move.reti`: the step that executes RETI;
* `Machine.Served`: what serving a list of sources leaves behind, which is the
  acknowledgement of each and one return address on the stack;
* `Machine.exists_round`: a dispatch and the RETI after it serve one source;
* `Machine.run_serves_waiting`: all sources that wait are served in turn, and the
  program that was interrupted does not notice.
-/

namespace DmgCore

/-- The instructions that interrupts need have RETI where it is expected. -/
lemma OpcodeTables.primary?_interruptControl_reti {ε : Type} :
    (interruptControl : OpcodeTables ε).primary? 0xD9 = some .reti := by
  rw [interruptControl, primary?_setPrimary, if_pos rfl]

/-- No handler begins at IF. -/
lemma Interrupt.vector_ne_interruptRequest (source : Interrupt) :
    source.vector ≠ MemoryMap.interruptRequest := by
  cases source <;> decide

namespace Machine

variable {ε σ : Type} [Bus σ] {m m₁ m' : Machine ε FlatMemory} {first source : Interrupt}
  {rest sources : List Interrupt}

/-! ### Serving a list of sources -/

/-- The sources that wait, the most urgent first. -/
def waiting (m : Machine ε FlatMemory) : List Interrupt := Interrupt.pending m.pendingBits

/-- Interrupts are admitted, the handler of each source of a list is RETI, and the two bytes
below SP are none of the interrupt registers and in none of these handlers. -/
structure ReturnsAtOnce (m : Machine ε FlatMemory) (sources : List Interrupt) : Prop where
  ime : m.cpu.ime = true
  reti : m.cpu.tables.primary? 0xD9 = some .reti
  handler : ∀ source ∈ sources, Bus.read8 m.bus source.vector = 0xD9
  stack : ∀ addr, addr = m.cpu.regs.sp - 2 ∨ addr = m.cpu.regs.sp - 1 →
    addr ≠ MemoryMap.interruptRequest ∧ addr ≠ MemoryMap.interruptEnable ∧
      ∀ source ∈ sources, addr ≠ source.vector

/-- The machine `m'` is `m` after all sources of a list were served: the processor is as it
was, the bits of the sources are cleared in IF, and below SP the last return address is
left, if there was one. -/
structure Served (m : Machine ε FlatMemory) (sources : List Interrupt)
    (m' : Machine ε FlatMemory) : Prop where
  regs : m'.cpu.regs = m.cpu.regs
  ime : m'.cpu.ime = m.cpu.ime
  tables : m'.cpu.tables = m.cpu.tables
  request : ∀ i, m'.requestBits.toNat.testBit i =
    (m.requestBits.toNat.testBit i && decide (∀ source ∈ sources, i ≠ source.index))
  stack : sources ≠ [] → Bus.read8 m'.bus (m.cpu.regs.sp - 2) = Word.low m.cpu.regs.pc ∧
    Bus.read8 m'.bus (m.cpu.regs.sp - 1) = Word.high m.cpu.regs.pc
  other : ∀ addr, addr ≠ MemoryMap.interruptRequest → addr ≠ m.cpu.regs.sp - 2 →
    addr ≠ m.cpu.regs.sp - 1 → Bus.read8 m'.bus addr = Bus.read8 m.bus addr
  idle : sources = [] → m' = m

/-- Serving no source changes nothing. -/
lemma Served.nil (m : Machine ε FlatMemory) : m.Served [] m := by
  refine ⟨rfl, rfl, rfl, ?_, ?_, ?_, ?_⟩
  · simp
  · simp
  · exact fun _ _ _ _ => rfl
  · exact fun _ => rfl

/-- Serving one source and then others is serving them all. -/
lemma Served.cons (hfirst : m.Served [first] m₁) (hrest : m₁.Served rest m') :
    m.Served (first :: rest) m' := by
  have hone : ([first] : List Interrupt) ≠ [] := List.cons_ne_nil _ _
  refine ⟨hrest.regs.trans hfirst.regs, hrest.ime.trans hfirst.ime,
    hrest.tables.trans hfirst.tables, fun i => ?_, fun _ => ?_,
    fun addr hrequest hlow hhigh => ?_, fun h => absurd h (List.cons_ne_nil _ _)⟩
  · rw [hrest.request, hfirst.request, Bool.and_assoc]
    simp
  · cases rest with
    | nil =>
        rw [hrest.idle rfl]
        exact hfirst.stack hone
    | cons second rest =>
        -- the later return addresses overwrite the first one with itself
        rw [← hfirst.regs]
        exact hrest.stack (List.cons_ne_nil _ _)
  · rw [hrest.other addr hrequest (hfirst.regs ▸ hlow) (hfirst.regs ▸ hhigh),
      hfirst.other addr hrequest hlow hhigh]

/-- What the first of several sources needs. -/
lemma ReturnsAtOnce.head (h : m.ReturnsAtOnce (first :: rest)) : m.ReturnsAtOnce [first] := by
  refine ⟨h.ime, h.reti, ?_, fun addr haddr => ?_⟩
  · intro source hsource
    rw [List.mem_singleton.mp hsource]
    exact h.handler first List.mem_cons_self
  · obtain ⟨hrequest, henable, hvector⟩ := h.stack addr haddr
    refine ⟨hrequest, henable, ?_⟩
    intro source hsource
    rw [List.mem_singleton.mp hsource]
    exact hvector first List.mem_cons_self

/-- What the other sources need is still there when the first was served. -/
lemma ReturnsAtOnce.tail (h : m.ReturnsAtOnce (first :: rest)) (hfirst : m.Served [first] m₁) :
    m₁.ReturnsAtOnce rest := by
  refine ⟨hfirst.ime.trans h.ime, hfirst.tables ▸ h.reti, fun source hsource => ?_,
    fun addr haddr => ?_⟩
  · have hmem : source ∈ first :: rest := List.mem_cons_of_mem _ hsource
    rw [hfirst.other _ source.vector_ne_interruptRequest
      ((h.stack _ (Or.inl rfl)).2.2 source hmem).symm
      ((h.stack _ (Or.inr rfl)).2.2 source hmem).symm]
    exact h.handler source hmem
  · rw [hfirst.regs] at haddr
    obtain ⟨hrequest, henable, hvector⟩ := h.stack addr haddr
    exact ⟨hrequest, henable, fun source hsource => hvector source (List.mem_cons_of_mem _ hsource)⟩

/-- When the first of the waiting sources was served, the others wait. -/
lemma Served.waiting_eq_tail (hfirst : m.Served [first] m₁)
    (hready : m.ReturnsAtOnce (first :: rest))
    (hwaiting : m.waiting = first :: rest) :
    m₁.waiting = rest := by
  refine Interrupt.pending_eq_tail hwaiting fun source => ?_
  have henable : m₁.enableBits = m.enableBits :=
    hfirst.other _ (by decide) (hready.stack _ (Or.inl rfl)).2.1.symm
      (hready.stack _ (Or.inr rfl)).2.1.symm
  have hrequest : source.isSet m₁.requestBits =
      (source.isSet m.requestBits && decide (source ≠ first)) := by
    have hindex : (source.index ≠ first.index) ↔ source ≠ first :=
      not_congr ⟨Interrupt.index_inj, congrArg Interrupt.index⟩
    rw [Interrupt.isSet, hfirst.request]
    simp only [List.mem_singleton, forall_eq, hindex]
    rfl
  calc source.isSet m₁.pendingBits
      = (source.isSet m₁.enableBits && source.isSet m₁.requestBits) := source.isSet_and _ _
    _ = (source.isSet m.enableBits &&
          (source.isSet m.requestBits && decide (source ≠ first))) := by rw [henable, hrequest]
    _ = (source.isSet m.enableBits && source.isSet m.requestBits && decide (source ≠ first)) :=
        (Bool.and_assoc _ _ _).symm
    _ = (source.isSet m.pendingBits && decide (source ≠ first)) := by
        rw [← source.isSet_and]
        rfl

/-! ### A dispatch and the way back -/

/-- RETI after a dispatch brings the processor back to where it was interrupted. -/
lemma Dispatched.regs_execReti {dispatched : Machine ε FlatMemory}
    (h : m.Dispatched source.index dispatched) :
    (Handler.execReti dispatched.restartClock).cpu.regs = m.cpu.regs := by
  have hpop : Bus.read16 dispatched.bus dispatched.cpu.regs.sp = m.cpu.regs.pc := by
    have hmemory := h.memory
    calc Bus.read16 dispatched.bus dispatched.cpu.regs.sp
        = Bus.read16 dispatched.bus (m.cpu.regs.sp - 2) := by rw [h.regs]
      _ = Word.ofBytes (Word.high m.cpu.regs.pc) (Word.low m.cpu.regs.pc) := by
          rw [Bus.read16, Word.sub_two_add_one, hmemory.high, hmemory.low]
      _ = m.cpu.regs.pc := Word.ofBytes_high_low _
  calc (Handler.execReti dispatched.restartClock).cpu.regs
      = { dispatched.cpu.regs with
          pc := Bus.read16 dispatched.bus dispatched.cpu.regs.sp,
          sp := dispatched.cpu.regs.sp + 2 } := rfl
    _ = { m.cpu.regs with sp := m.cpu.regs.sp - 2 + 2 } := by rw [hpop, h.regs]
    _ = m.cpu.regs := by rw [UInt16.sub_add_cancel]

variable [InstructionSet ε]

/-- RETI goes on at the address on the stack and admits interrupts again. -/
lemma step_reti {m : Machine ε σ} (hmasked : m.cpu.ime = false)
    (hreti : m.cpu.tables.primary? 0xD9 = some .reti)
    (hopcode : Bus.read8 m.bus m.cpu.regs.pc = 0xD9) :
    m.step = some (Handler.execReti m.restartClock, .ok 16) := by
  have hslot : m.restartClock.cpu.tables.primary?
      (Bus.read8 m.restartClock.bus m.restartClock.cpu.regs.pc) = some .reti :=
    (congrArg _ hopcode).trans hreti
  rw [step_of_not_pending (pendingInterrupt?_of_masked hmasked), executeWithin, hslot]
  rfl

/-- RETI as a move. -/
lemma Move.reti {κ : Type} {Outside : Machine ε σ → κ → Machine ε σ → Prop} {m : Machine ε σ}
    (hmasked : m.cpu.ime = false) (hreti : m.cpu.tables.primary? 0xD9 = some .reti)
    (hopcode : Bus.read8 m.bus m.cpu.regs.pc = 0xD9) :
    Move Outside m (.execute [.reti] (.ok 16)) (Handler.execReti m.restartClock) := by
  have hrun : m.handlersRun = [.reti] :=
    handlersRun_of_isPlain (show Handler.reti.IsPlain from trivial) (hopcode ▸ hreti)
  rw [← hrun]
  exact .execute (pendingInterrupt?_of_masked hmasked) (step_reti hmasked hreti hopcode)

/-- A run goes on behind a step that succeeded. -/
lemma runFrom_succ {m m' : Machine ε σ} {cycles : UInt32} (taken : Array UInt32) (n : ℕ)
    (h : m.step = some (m', .ok cycles)) :
    m.runFrom taken (n + 1) = m'.runFrom (taken.push cycles) n := by
  rw [runFrom, h]

/-- One round serves one source: its dispatch, and RETI at its handler. -/
lemma exists_round (hpending : m.pendingInterrupt? = some source)
    (hready : m.ReturnsAtOnce [source]) :
    ∃ dispatched m', m.step = some (dispatched, .ok 20) ∧
      dispatched.step = some (m', .ok 16) ∧
      Run Acts m [.dispatch source m.cpu.regs.sp (.ok 20), .execute [.reti] (.ok 16)] m' ∧
      m.Served [source] m' := by
  obtain ⟨dispatched, hstep, hdispatched⟩ := step_of_pending hpending
  have hmemory := hdispatched.memory
  obtain ⟨hlow, -, hvector⟩ := hready.stack _ (Or.inl rfl)
  obtain ⟨hhigh, -, hvector'⟩ := hready.stack _ (Or.inr rfl)
  have hmem : source ∈ [source] := List.mem_singleton_self source
  have hopcode : Bus.read8 dispatched.bus dispatched.cpu.regs.pc = 0xD9 := by
    calc Bus.read8 dispatched.bus dispatched.cpu.regs.pc
        = Bus.read8 dispatched.bus source.vector := by rw [hdispatched.regs]; rfl
      _ = Bus.read8 m.bus source.vector :=
          hmemory.other _ source.vector_ne_interruptRequest (hvector source hmem).symm
            (hvector' source hmem).symm
      _ = 0xD9 := hready.handler source hmem
  have hslot := hdispatched.tables ▸ hready.reti
  refine ⟨dispatched, _, hstep, step_reti hdispatched.ime hslot hopcode,
    .cons (.dispatch hpending hstep) (.cons (.reti hdispatched.ime hslot hopcode) (.nil _)), ?_⟩
  refine ⟨hdispatched.regs_execReti, hready.ime.symm, hdispatched.tables, fun i => ?_,
    fun _ => ⟨hmemory.low, hmemory.high⟩, hmemory.other, ?_⟩
  · simp only [List.mem_singleton, forall_eq]
    exact hmemory.request hlow hhigh i
  · exact fun h => absurd h (List.cons_ne_nil _ _)

/-- As many rounds as sources wait serve them all, the most urgent first. -/
lemma exists_runFrom (taken : Array UInt32)
    (hwaiting : m.waiting = sources) (hready : m.ReturnsAtOnce sources) :
    ∃ m', m.runFrom taken (2 * sources.length) =
        some (m', taken ++ (sources.flatMap fun _ => [20, 16]).toArray, .ok ()) ∧
      Run Acts m (sources.flatMap fun source =>
        [.dispatch source m.cpu.regs.sp (.ok 20), .execute [.reti] (.ok 16)]) m' ∧
      m.Served sources m' := by
  induction sources generalizing m taken with
  | nil => exact ⟨m, by simp [runFrom], .nil m, .nil m⟩
  | cons first rest ih =>
      have hfirst : m.pendingInterrupt? = some first := by
        rw [pendingInterrupt?_eq_some_iff, Interrupt.mostUrgent?_eq_head?, ← waiting, hwaiting]
        exact ⟨hready.ime, rfl⟩
      obtain ⟨dispatched, m₁, hdispatch, hreturn, hround, hserved⟩ :=
        exists_round hfirst hready.head
      obtain ⟨m', hrun, hrest, hserved'⟩ := ih ((taken.push 20).push 16)
        (hserved.waiting_eq_tail hready hwaiting) (hready.tail hserved)
      refine ⟨m', ?_, ?_, hserved.cons hserved'⟩
      · have hlength : 2 * (first :: rest).length = 2 * rest.length + 1 + 1 := by
          rw [List.length_cons, Nat.mul_succ]
        rw [hlength, runFrom_succ _ _ hdispatch, runFrom_succ _ _ hreturn, hrun]
        simp
      · rw [List.flatMap_cons]
        rw [hserved.regs] at hrest
        exact Run.append_iff.mpr ⟨m₁, hround, hrest⟩

/-- **A burst of interrupts passes unnoticed.**  Let RETI be the handler of every source
that waits, and let the two bytes below SP be neither IF nor IE nor in one of these
handlers.  Then twice as many steps as sources wait all succeed and cost `20` and `16`
cycles by turns; the waiting sources, which are the bits of IE and IF in common, are
dispatched by number, once each; and afterwards the processor and the memory are as
`Served` says. -/
theorem run_serves_waiting (m : Machine ε FlatMemory) (hready : m.ReturnsAtOnce m.waiting) :
    (∀ i, (∃ source ∈ m.waiting, source.index = i) ↔ m.waitingBits.toNat.testBit i = true) ∧
    (m.waiting.Pairwise fun source other => source.index < other.index) ∧
    ∃ m', m.run (2 * m.waiting.length) =
        some (m', (m.waiting.flatMap fun _ => [20, 16]).toArray, .ok ()) ∧
      Run Acts m (m.waiting.flatMap fun source =>
        [.dispatch source m.cpu.regs.sp (.ok 20), .execute [.reti] (.ok 16)]) m' ∧
      m.Served m.waiting m' := by
  obtain ⟨m', hrun, hhistory, hserved⟩ := exists_runFrom #[] rfl hready
  rw [Array.empty_append] at hrun
  exact ⟨fun i => Interrupt.exists_mem_pending_iff _ i, Interrupt.pairwise_pending _,
    m', hrun, hhistory, hserved⟩

/-- Two sources that wait, served with the stack at the bottom of memory. -/
theorem run_serves_waiting_two :
    let handlers := Bus.write8 (Bus.write8 FlatMemory.zero 0x40 0xD9) 0x50 0xD9
    let mem := Bus.write8 (Bus.write8 handlers MemoryMap.interruptRequest 0xE5)
      MemoryMap.interruptEnable 0x0F
    let m : Machine Empty FlatMemory :=
      ⟨⟨{ a := 7, pc := 0x1234, sp := 2 }, true, 0, .interruptControl⟩, mem, #[]⟩
    ∃ m', m.run 4 = some (m', #[20, 16, 20, 16], .ok ()) ∧ m'.cpu.regs = m.cpu.regs ∧
      m'.requestBits.toNat.testBit 2 = false ∧ Bus.read8 m'.bus 0 = 0x34 := by
  intro handlers mem m
  have hmem : ∀ addr, Bus.read8 mem addr =
      if addr = MemoryMap.interruptEnable then 0x0F
      else if addr = MemoryMap.interruptRequest then 0xE5
      else if addr = 0x50 then 0xD9 else if addr = 0x40 then 0xD9 else 0 := by
    intro addr
    simp only [mem, handlers, FlatMemory.read8_write8, FlatMemory.read8_zero]
  have hwaiting : m.waiting = [.vBlank, .timer] := by
    rw [waiting, pendingBits, hmem, hmem]
    decide
  have hready : m.ReturnsAtOnce [.vBlank, .timer] := by
    refine ⟨rfl, ?_, fun source hsource => ?_, ?_⟩
    · exact OpcodeTables.primary?_interruptControl_reti
    · rw [hmem]
      revert source
      decide
    · rintro addr (rfl | rfl)
      · decide
      · decide
  obtain ⟨-, -, m', hrun, -, hserved⟩ := run_serves_waiting m (hwaiting ▸ hready)
  rw [hwaiting] at hrun hserved
  refine ⟨m', hrun, hserved.regs, ?_, ?_⟩
  · rw [hserved.request, requestBits, hmem]
    decide
  · have hbottom : m.cpu.regs.sp - 2 = 0 := by decide
    have hbyte : Word.low m.cpu.regs.pc = 0x34 := by decide
    rw [← hbottom, (hserved.stack (List.cons_ne_nil _ _)).1, hbyte]

end Machine

end DmgCore
