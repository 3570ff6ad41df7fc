import DmgCore.Proofs.Cpu.HandlerCalls

/-!
Steps that fail.

With the handlers of the library, and none of them leading from the extended table back into
it, a step fails for want of a handler and for no other reason.

* `Machine.Lacks`: a handler is missing at PC, with the fault this leads to and the registers
  it leaves;
* `Machine.Failed`: what a failed step leaves of a machine, which is everything but the clock,
  the log and, behind a prefix, PC;
* `Machine.exists_failed_of_lacks`, `Machine.exists_cycles_of_not_lacks`: the step of a machine
  that lacks a handler fails, and every other step succeeds;
* `Machine.attempts_of_noHandler`: without a handler for the opcode at PC the same step fails
  again, however often it is made;
* `Machine.step_fails_iff_lacks`: the statements together.
-/

namespace DmgCore

variable {ε σ : Type} [Bus σ]

namespace Machine

/-- The opcode at PC. -/
def opcode (m : Machine ε σ) : UInt8 := Bus.read8 m.bus m.cpu.regs.pc

/-- The byte behind the opcode at PC, which at the end of memory is the first one. -/
def opcodeBehind (m : Machine ε σ) : UInt8 := Bus.read8 m.bus (m.cpu.regs.pc + 1)

/-- The machine lacks a handler that it needs to execute the opcode at PC, which leads to a
fault and leaves the given registers. -/
inductive Lacks (m : Machine ε σ) : Fault → Registers → Prop
  /-- There is none for the opcode itself. -/
  | primary (hslot : m.cpu.tables.primary? m.opcode = none) :
      Lacks m (.noHandler m.opcode m.cpu.regs.pc) m.cpu.regs
  /-- The opcode is a prefix and there is none for the opcode behind it. -/
  | extended (hstart : m.cpu.tables.primary? m.opcode = some .prefixCB)
      (hslot : m.cpu.tables.extended? m.opcodeBehind = none) :
      Lacks m (.noExtendedHandler m.opcodeBehind m.cpu.regs.pc)
        { m.cpu.regs with pc := m.cpu.regs.pc + 2 }

/-- The machine `m'` is what a failed step leaves of `m`: the registers are the given ones, the
clock is at zero, and one error is reported. -/
structure Failed (m : Machine ε σ) (regs : Registers) (m' : Machine ε σ) : Prop where
  regs : m'.cpu.regs = regs
  ime : m'.cpu.ime = m.cpu.ime
  clock : m'.cpu.clock = 0
  tables : m'.cpu.tables = m.cpu.tables
  bus : m'.bus = m.bus
  log : ∃ text, m'.log = m.log.push ⟨.error, text⟩

/-- A machine lacks one handler at most. -/
lemma Lacks.unique {m : Machine ε σ} {fault fault' : Fault} {regs regs' : Registers}
    (h : m.Lacks fault regs) (h' : m.Lacks fault' regs') : fault = fault' ∧ regs = regs' := by
  cases h with
  | primary hslot =>
      cases h' with
      | primary => exact ⟨rfl, rfl⟩
      | extended hstart => exact absurd (hslot.symm.trans hstart) (Option.some_ne_none _).symm
  | extended hstart =>
      cases h' with
      | primary hslot => exact absurd (hstart.symm.trans hslot) (Option.some_ne_none _)
      | extended => exact ⟨rfl, rfl⟩

omit [Bus σ] in
/-- What is reported about an opcode depends on the machine through its registers only. -/
lemma exists_text_reportUnregistered (opcode : UInt8) (pc : UInt16) (regs : Registers) :
    ∃ text, ∀ m : Machine ε σ, m.cpu.regs = regs →
      m.reportUnregistered opcode pc = m.report .error text :=
  ⟨_, fun m h => by rw [reportUnregistered, h]⟩

variable [InstructionSet ε] {m m' : Machine ε σ} {fault : Fault} {regs : Registers}

/-! ### One step -/

lemma step_of_noHandler (hidle : m.pendingInterrupt? = none)
    (hslot : m.cpu.tables.primary? m.opcode = none) :
    m.step = some (m.restartClock.reportUnregistered m.opcode m.cpu.regs.pc,
      .error (.noHandler m.opcode m.cpu.regs.pc)) := by
  rw [step, stepWithin_of_not_pending hidle, ← opcode, hslot]

/-- A step that finds a prefix at PC goes on with the opcode behind it. -/
lemma step_of_prefixCB (hidle : m.pendingInterrupt? = none)
    (hstart : m.cpu.tables.primary? m.opcode = some .prefixCB) :
    m.step = (callWithin (32767 + 1) .prefixCB m.restartClock).map withCycles := by
  rw [step, stepWithin_of_not_pending hidle, ← opcode, hstart]
  rfl

/-- Where a handler is missing the step fails and changes no more than it must. -/
lemma exists_failed_of_lacks (hidle : m.pendingInterrupt? = none) (h : m.Lacks fault regs) :
    ∃ m', m.step = some (m', .error fault) ∧ m.Failed regs m' := by
  cases h with
  | primary hslot =>
      exact ⟨_, step_of_noHandler hidle hslot, rfl, rfl, rfl, rfl, rfl, _, rfl⟩
  | extended hstart hslot =>
      have hstep := step_of_prefixCB hidle hstart
      rw [callWithin_prefixCB_of_none (m := m.restartClock) 32767 hslot] at hstep
      have hpc : m.cpu.regs.pc + 1 + 1 = m.cpu.regs.pc + 2 := by
        rw [UInt16.add_assoc]
        rfl
      refine ⟨_, hstep, ?_, rfl, rfl, rfl, rfl, _, rfl⟩
      rw [← hpc]
      rfl

/-- Where no handler is missing the step succeeds. -/
lemma exists_cycles_of_not_lacks (hlibrary : m.cpu.tables.LibraryOnly)
    (hfree : ∀ opcode, m.cpu.tables.extended? opcode ≠ some .prefixCB)
    (hidle : m.pendingInterrupt? = none) (h : ∀ fault regs, ¬ m.Lacks fault regs) :
    ∃ m' cycles, m.step = some (m', .ok cycles) := by
  cases hslot : m.cpu.tables.primary? m.opcode with
  | none => exact absurd (.primary hslot) (h _ _)
  | some handler =>
      rcases (hlibrary.primary hslot).isPlain_or with hplain | rfl
      · exact ⟨_, _, step_of_isPlain hplain hidle hslot⟩
      · cases hbehind : m.cpu.tables.extended? m.opcodeBehind with
        | none => exact absurd (.extended hslot hbehind) (h _ _)
        | some found =>
            -- the handler that is found is not a prefix, so that nothing is looked up again
            have hplain : found.IsPlain := by
              refine (hlibrary.extended hbehind).isPlain_or.resolve_right ?_
              rintro rfl
              exact hfree _ hbehind
            have hstep := step_of_prefixCB hidle hslot
            rw [callWithin_prefixCB_of_some (m := m.restartClock) 32767 hbehind,
              callWithin_of_isPlain hplain] at hstep
            exact ⟨_, _, hstep⟩

/-! ### The same step again -/

/-- So many steps made one after the other, whatever they come to: the machine afterwards and
their results, oldest first. -/
def attempts : ℕ → Machine ε σ → Option (Machine ε σ × List (Except Fault UInt32))
  | 0, m => some (m, [])
  | n + 1, m =>
    match m.step with
    | none => none
    | some (next, result) =>
      (attempts n next).map fun (last, results) => (last, result :: results)

/-- One attempt more at the front. -/
lemma attempts_succ {next : Machine ε σ} {result : Except Fault UInt32}
    (h : m.step = some (next, result)) (n : ℕ) :
    attempts (n + 1) m =
      (attempts n next).map fun (last, results) => (last, result :: results) := by
  rw [attempts, h]

/-- Where a step does nothing but add a record to the log, so do any number of steps. -/
lemma attempts_of_step_logs {record : LogRecord} {result : Except Fault UInt32}
    (h : ∀ log, step { m with log := log } = some ({ m with log := log.push record }, result))
    (n : ℕ) (log : Array LogRecord) :
    attempts n { m with log := log } =
      some ({ m with log := log ++ Array.replicate n record }, List.replicate n result) := by
  induction n generalizing log with
  | zero => simp [attempts]
  | succ n ih =>
      rw [attempts_succ (h log), ih, Array.push_eq_append, Array.append_assoc,
        ← Array.replicate_succ', List.replicate_succ]
      rfl

/-- Without a handler for the opcode at PC the step fails with the clock restarted, and from
there all attempts fail alike, each adding the same record to the log. -/
lemma attempts_of_noHandler (hidle : m.pendingInterrupt? = none)
    (hslot : m.cpu.tables.primary? m.opcode = none) :
    ∃ m' text, m.step = some (m', .error (.noHandler m.opcode m.cpu.regs.pc)) ∧
      m'.log = m.log.push ⟨.error, text⟩ ∧ ∀ n, m'.attempts n =
        some ({ m' with log := m'.log ++ Array.replicate n ⟨.error, text⟩ },
          List.replicate n (.error (.noHandler m.opcode m.cpu.regs.pc))) := by
  obtain ⟨text, htext⟩ := exists_text_reportUnregistered m.opcode m.cpu.regs.pc m.cpu.regs
  set start := m.restartClock
  -- the registers are still those of the failed step, so that the text is the same again
  have hstep : ∀ log, step { start with log := log } =
      some ({ start with log := log.push ⟨.error, text⟩ },
        .error (.noHandler m.opcode m.cpu.regs.pc)) := by
    intro log
    rw [step_of_noHandler (m := { start with log := log }) hidle hslot]
    exact congrArg (fun next => some (next, _)) (htext { start with log := log } rfl)
  refine ⟨{ start with log := m.log.push ⟨.error, text⟩ }, text, ?_, rfl, fun n => ?_⟩
  · rw [step_of_noHandler hidle hslot, htext m.restartClock rfl]
    rfl
  · exact attempts_of_step_logs hstep n (m.log.push ⟨.error, text⟩)

/-! ### The statements together -/

/-- **A step fails for want of a handler only, and then changes next to nothing.**  Let the
tables hold nothing but handlers of the library, and no prefix in the extended one.  Every
step ends.  It fails just when no interrupt is waiting and there is no handler for the opcode
at PC, or that is a prefix and there is none for the opcode behind it.  A failed step leaves
what `Failed` says, with PC behind the prefix and its opcode in the second case.  In the first
case the machine stays as it is: every further attempt has the same result and adds nothing
but the same error to the log. -/
theorem step_fails_iff_lacks (m : Machine ε σ) (hlibrary : m.cpu.tables.LibraryOnly)
    (hfree : ∀ opcode, m.cpu.tables.extended? opcode ≠ some .prefixCB) :
    ∃ m' result, m.step = some (m', result) ∧
      (∀ fault, result = .error fault ↔ ¬ m.HasWaiting ∧ ∃ regs, m.Lacks fault regs) ∧
      (∀ fault regs, result = .error fault → m.Lacks fault regs → m.Failed regs m') ∧
      ∀ opcode pc, result = .error (.noHandler opcode pc) →
        ∃ text, m'.log = m.log.push ⟨.error, text⟩ ∧ ∀ n, m'.attempts n =
          some ({ m' with log := m'.log ++ Array.replicate n ⟨.error, text⟩ },
            List.replicate n (.error (.noHandler opcode pc))) := by
  cases hpending : m.pendingInterrupt? with
  | some source =>
      obtain ⟨m', hstep, -⟩ := step_of_pending hpending
      have hwaiting := (exists_pendingInterrupt?_iff m).mp ⟨source, hpending⟩
      exact ⟨m', _, hstep, fun fault => ⟨nofun, fun h => absurd hwaiting h.1⟩,
        fun fault regs h => absurd h nofun, fun opcode pc h => absurd h nofun⟩
  | none =>
      have hidle := (pendingInterrupt?_eq_none_iff m).mp hpending
      by_cases hlacks : ∃ fault regs, m.Lacks fault regs
      · obtain ⟨fault, regs, hlacks⟩ := hlacks
        obtain ⟨m', hstep, hfailed⟩ := exists_failed_of_lacks hpending hlacks
        refine ⟨m', _, hstep, fun fault' => ⟨fun h => ?_, fun h => ?_⟩,
          fun fault' regs' _ hlacks' => ?_, fun opcode pc h => ?_⟩
        · obtain rfl := Except.error.inj h
          exact ⟨hidle, regs, hlacks⟩
        · obtain ⟨-, regs', hlacks'⟩ := h
          rw [(hlacks.unique hlacks').1]
        · rw [← (hlacks.unique hlacks').2]
          exact hfailed
        · obtain rfl := Except.error.inj h
          cases hlacks with
          | primary hslot =>
              obtain ⟨last, text, hlast, hlog, hagain⟩ := attempts_of_noHandler hpending hslot
              obtain ⟨rfl, -⟩ := Prod.mk.inj (Option.some.inj (hstep.symm.trans hlast))
              exact ⟨text, hlog, hagain⟩
      · obtain ⟨m', cycles, hstep⟩ := exists_cycles_of_not_lacks hlibrary hfree hpending
          fun fault regs h => hlacks ⟨fault, regs, h⟩
        exact ⟨m', _, hstep, fun fault => ⟨nofun, fun h => absurd ⟨fault, h.2⟩ hlacks⟩,
          fun fault regs h => absurd h nofun, fun opcode pc h => absurd h nofun⟩

/-- A prefix at the end of memory whose opcode, past the wrap of PC, has no handler in either
table, while IE and IF ask for different sources: the step over the prefix fails with PC
behind that opcode, and a step at the opcode itself fails for ever. -/
theorem step_fails_iff_lacks_wrapped :
    let mem := Bus.write8 (Bus.write8 (Bus.write8 FlatMemory.zero 0xFFFF 0xCB) 0x0000 0xD3)
      MemoryMap.interruptRequest 0x34
    let m : UInt16 → Machine Empty FlatMemory := fun pc =>
      ⟨⟨{ pc := pc }, true, 9, .interruptControl⟩, mem, #[]⟩
    (∀ pc, (m pc).cpu.tables.LibraryOnly) ∧
      (∀ pc opcode, (m pc).cpu.tables.extended? opcode ≠ some .prefixCB) ∧
      (∃ m', (m 0xFFFF).step = some (m', .error (.noExtendedHandler 0xD3 0xFFFF)) ∧
        m'.cpu.regs.pc = 1 ∧ m'.cpu.clock = 0) ∧
      ∃ m', (m 0).step = some (m', .error (.noHandler 0xD3 0)) ∧ ∃ last,
        m'.attempts 70000 = some (last, List.replicate 70000 (.error (.noHandler 0xD3 0))) ∧
        last.cpu = m'.cpu := by
  intro mem m
  have hbytes : ∀ pc addr, Bus.read8 (m pc).bus addr =
      if addr = MemoryMap.interruptRequest then 0x34
      else if addr = 0x0000 then 0xD3 else if addr = 0xFFFF then 0xCB else 0 := by
    intro pc addr
    simp only [m, mem, FlatMemory.read8_write8, FlatMemory.read8_zero]
  have hidle : ∀ pc, ¬ (m pc).HasWaiting := by
    rintro pc ⟨-, hbits⟩
    have hnone : (m pc).waitingBits = 0 := by
      rw [waitingBits, enableBits, requestBits, hbytes, hbytes]
      decide
    exact hbits hnone
  have hlibrary : ∀ pc, (m pc).cpu.tables.LibraryOnly := fun pc =>
    OpcodeTables.libraryOnly_of_isEmpty _
  have hempty : ∀ opcode, (OpcodeTables.interruptControl : OpcodeTables Empty).extended? opcode =
      none := OpcodeTables.extended?_interruptControl
  have hfree : ∀ pc opcode, (m pc).cpu.tables.extended? opcode ≠ some .prefixCB := by
    intro pc opcode
    rw [hempty]
    exact (Option.some_ne_none _).symm
  refine ⟨hlibrary, hfree, ?_, ?_⟩
  · have hopcode : (m 0xFFFF).opcode = prefixOpcode := by
      rw [opcode, hbytes]
      rfl
    have hnext : (m 0xFFFF).cpu.regs.pc + 1 = 0x0000 := by decide
    have hbehind : (m 0xFFFF).opcodeBehind = 0xD3 := by
      rw [opcodeBehind, hnext, hbytes]
      rfl
    have hstart : (m 0xFFFF).cpu.tables.primary? (m 0xFFFF).opcode = some .prefixCB := by
      rw [hopcode, OpcodeTables.primary?_prefixOpcode]
    have hlacks := Lacks.extended hstart (hempty _)
    rw [hbehind] at hlacks
    obtain ⟨m', result, hstep, hfails, hfailed, -⟩ :=
      step_fails_iff_lacks (m 0xFFFF) (hlibrary _) (hfree _)
    obtain rfl := (hfails _).mpr ⟨hidle _, _, hlacks⟩
    have hleft := hfailed _ _ rfl hlacks
    exact ⟨m', hstep, by rw [hleft.regs]; decide, hleft.clock⟩
  · have hopcode : (m 0).opcode = 0xD3 := by
      rw [opcode, hbytes]
      rfl
    have hslot : (m 0).cpu.tables.primary? (m 0).opcode = none := by
      rw [hopcode]
      exact OpcodeTables.primary?_interruptControl _
    have hlacks := Lacks.primary hslot
    rw [hopcode] at hlacks
    obtain ⟨m', result, hstep, hfails, -, hagain⟩ :=
      step_fails_iff_lacks (m 0) (hlibrary _) (hfree _)
    obtain rfl := (hfails _).mpr ⟨hidle _, _, hlacks⟩
    obtain ⟨text, -, hattempts⟩ := hagain 0xD3 0 rfl
    exact ⟨m', hstep, _, hattempts 70000, rfl⟩

end Machine

end DmgCore
