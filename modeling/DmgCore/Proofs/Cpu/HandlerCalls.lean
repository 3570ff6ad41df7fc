import DmgCore.Proofs.Cpu.InterruptDispatch
import DmgCore.Proofs.Cpu.LookUps

/-!
The handlers that one step runs.

The execution of an opcode runs the handler at PC and then, one after the other, those
that are found in the extended table.

* `Machine.calls`, `Machine.handlersRun`: these calls in order, each with the machine that
  it works on;
* `Machine.stepReads`: the addresses at which a step fetches an opcode or takes a byte from
  the stack;
* `Machine.CallOutcome`: what a call comes to with the handlers of the library, which is
  that of one last handler, or a fault, behind some prefixes;
* `Machine.callOutcome_of_step`: every step that ends, and is not a dispatch, comes to one of
  the two.
-/

namespace DmgCore

variable {ε σ : Type}

namespace Handler

/-- A handler of the library that completes an instruction by itself. -/
def IsPlain : Handler ε → Prop
  | nop => True
  | di => True
  | ei => True
  | reti => True
  | prefixCB => False
  | custom _ => False

/-- A handler of the library completes an instruction or leads to the extended table. -/
lemma IsLibrary.isPlain_or {handler : Handler ε} (h : handler.IsLibrary) :
    handler.IsPlain ∨ handler = .prefixCB := by
  cases handler with
  | custom instruction => exact h.elim
  | prefixCB => exact Or.inr rfl
  | nop => exact Or.inl trivial
  | di => exact Or.inl trivial
  | ei => exact Or.inl trivial
  | reti => exact Or.inl trivial

/-- The addresses whose bytes a handler of the library reads: RETI the two bytes on the
stack, and a prefix the opcode behind it. -/
def reads (handler : Handler ε) (m : Machine ε σ) : List UInt16 :=
  match handler with
  | reti => [m.cpu.regs.sp, m.cpu.regs.sp + 1]
  | prefixCB => [m.cpu.regs.pc + 1]
  | nop => []
  | di => []
  | ei => []
  | custom _ => []

variable [Bus σ] [InstructionSet ε]

lemma IsPlain.exec_done {handler : Handler ε} (h : handler.IsPlain) (m : Machine ε σ) :
    (handler.exec m).2 = .done := by
  cases handler with
  | custom instruction => exact h.elim
  | prefixCB => exact h.elim
  | nop => rfl
  | di => rfl
  | ei => rfl
  | reti => rfl

/-- A prefix goes past itself and the opcode behind it, which is to be looked up. -/
lemma exec_prefixCB (m : Machine ε σ) :
    (prefixCB : Handler ε).exec m =
      (m.jump (m.cpu.regs.pc + 1 + 1),
        .extended (Bus.read8 m.bus (m.cpu.regs.pc + 1)) m.cpu.regs.pc) := rfl

end Handler

namespace Machine

/-- A handler and the machine that it works on. -/
structure Call (ε σ : Type) where
  handler : Handler ε
  machine : Machine ε σ

variable [Bus σ] [InstructionSet ε]

/-! ### The calls of a step -/

/-- The calls that are made one after the other when a handler is called, that call the
first, with at most so many look-ups in the extended table. -/
def callsWithin : ℕ → Handler ε → Machine ε σ → List (Call ε σ)
  | 0, handler, m => [⟨handler, m⟩]
  | budget + 1, handler, m =>
    ⟨handler, m⟩ ::
      match handler.exec m with
      | (next, .extended opcode _) =>
        match next.cpu.tables.extended? opcode with
        | some found => callsWithin budget found next
        | none => []
      | _ => []

/-- The calls that the execution of the opcode at PC makes. -/
def calls (m : Machine ε σ) : List (Call ε σ) :=
  match m.cpu.tables.primary? (Bus.read8 m.bus m.cpu.regs.pc) with
  | some handler => callsWithin prefixCycle handler m.restartClock
  | none => []

/-- The handlers that the execution of the opcode at PC runs. -/
def handlersRun (m : Machine ε σ) : List (Handler ε) := m.calls.map Call.handler

/-- The addresses whose bytes the execution of the opcode at PC reads: that opcode, those
looked up in the extended table, and what is taken from the stack. -/
def stepReads (m : Machine ε σ) : List UInt16 :=
  m.cpu.regs.pc :: m.calls.flatMap fun call => call.handler.reads call.machine

lemma callsWithin_of_isPlain {handler : Handler ε} (h : handler.IsPlain) (budget : ℕ)
    (m : Machine ε σ) : callsWithin budget handler m = [⟨handler, m⟩] := by
  cases budget with
  | zero => rfl
  | succ budget =>
      have hdone := h.exec_done m
      rw [callsWithin]
      rcases hexec : handler.exec m with ⟨next, ending⟩
      rw [hexec] at hdone
      obtain rfl : ending = .done := hdone
      rfl

section Prefix

variable {m : Machine ε σ}

/-- A prefix runs no other handler when the opcode behind it has none. -/
lemma callsWithin_prefixCB_of_none (budget : ℕ)
    (hslot : m.cpu.tables.extended? (Bus.read8 m.bus (m.cpu.regs.pc + 1)) = none) :
    callsWithin (budget + 1) .prefixCB m = [⟨.prefixCB, m⟩] := by
  rw [callsWithin, Handler.exec_prefixCB]
  dsimp only [jump, mapRegs]
  rw [hslot]

/-- Behind a prefix come the calls that the handler of the opcode behind it leads to. -/
lemma callsWithin_prefixCB_of_some (budget : ℕ) {found : Handler ε}
    (hslot : m.cpu.tables.extended? (Bus.read8 m.bus (m.cpu.regs.pc + 1)) = some found) :
    callsWithin (budget + 1) .prefixCB m =
      ⟨.prefixCB, m⟩ :: callsWithin budget found (m.jump (m.cpu.regs.pc + 1 + 1)) := by
  rw [callsWithin, Handler.exec_prefixCB]
  dsimp only [jump, mapRegs]
  rw [hslot]

/-- A prefix fails when the opcode behind it has no handler. -/
lemma callWithin_prefixCB_of_none (budget : ℕ)
    (hslot : m.cpu.tables.extended? (Bus.read8 m.bus (m.cpu.regs.pc + 1)) = none) :
    callWithin (budget + 1) .prefixCB m =
      some ((m.jump (m.cpu.regs.pc + 1 + 1)).reportUnregisteredExtended
          (Bus.read8 m.bus (m.cpu.regs.pc + 1)) m.cpu.regs.pc,
        .error (.noExtendedHandler (Bus.read8 m.bus (m.cpu.regs.pc + 1)) m.cpu.regs.pc)) := by
  rw [callWithin, Handler.exec_prefixCB]
  exact runExtended_of_none budget _ hslot

/-- A prefix ends as the handler of the opcode behind it does. -/
lemma callWithin_prefixCB_of_some (budget : ℕ) {found : Handler ε}
    (hslot : m.cpu.tables.extended? (Bus.read8 m.bus (m.cpu.regs.pc + 1)) = some found) :
    callWithin (budget + 1) .prefixCB m =
      callWithin budget found (m.jump (m.cpu.regs.pc + 1 + 1)) := by
  rw [callWithin, Handler.exec_prefixCB]
  exact runExtended_of_some budget _ hslot

end Prefix

lemma callWithin_of_isPlain {handler : Handler ε} (h : handler.IsPlain) (budget : ℕ)
    (m : Machine ε σ) : callWithin budget handler m = some ((handler.exec m).1, .ok ()) := by
  rw [callWithin_eq, h.exec_done]

section Plain

variable {handler : Handler ε} {m : Machine ε σ}

/-- Where the handler at PC completes the instruction, it is the only one that is called. -/
lemma calls_of_isPlain (h : handler.IsPlain)
    (hslot : m.cpu.tables.primary? (Bus.read8 m.bus m.cpu.regs.pc) = some handler) :
    m.calls = [⟨handler, m.restartClock⟩] := by
  rw [calls, hslot]
  exact callsWithin_of_isPlain h prefixCycle m.restartClock

lemma handlersRun_of_isPlain (h : handler.IsPlain)
    (hslot : m.cpu.tables.primary? (Bus.read8 m.bus m.cpu.regs.pc) = some handler) :
    m.handlersRun = [handler] := by
  rw [handlersRun, calls_of_isPlain h hslot]
  rfl

lemma stepReads_of_isPlain (h : handler.IsPlain)
    (hslot : m.cpu.tables.primary? (Bus.read8 m.bus m.cpu.regs.pc) = some handler) :
    m.stepReads = m.cpu.regs.pc :: handler.reads m.restartClock := by
  rw [stepReads, calls_of_isPlain h hslot, List.flatMap_singleton]

/-- A step that finds such a handler does what the handler does. -/
lemma step_of_isPlain (h : handler.IsPlain) (hidle : m.pendingInterrupt? = none)
    (hslot : m.cpu.tables.primary? (Bus.read8 m.bus m.cpu.regs.pc) = some handler) :
    m.step = some ((handler.exec m.restartClock).1,
      .ok (handler.exec m.restartClock).1.cpu.clock) := by
  rw [step, stepWithin_of_not_pending hidle, hslot]
  dsimp only
  rw [callWithin_of_isPlain h]
  rfl

end Plain

/-! ### What a step comes to -/

/-- What a call comes to that runs the given handlers, all of the library: some prefixes
move PC and do nothing else, and then a last handler completes the instruction, or there is
no handler and an error is reported. -/
inductive CallOutcome (m : Machine ε σ) :
    List (Handler ε) → Machine ε σ × Except Fault Unit → Prop
  | completed (prefixes : ℕ) (pc : UInt16) {last : Handler ε} (hlast : last.IsPlain) :
      CallOutcome m (List.replicate prefixes .prefixCB ++ [last])
        ((last.exec (m.jump pc)).1, .ok ())
  | failed (prefixes : ℕ) (pc : UInt16) (fault : Fault) (text : String) :
      CallOutcome m (List.replicate prefixes .prefixCB)
        ((m.jump pc).report .error text, .error fault)

/-- A prefix more at the front changes nothing of the outcome. -/
lemma CallOutcome.cons {m : Machine ε σ} {pc : UInt16} {handlers : List (Handler ε)}
    {outcome : Machine ε σ × Except Fault Unit} (h : CallOutcome (m.jump pc) handlers outcome) :
    CallOutcome m (.prefixCB :: handlers) outcome := by
  cases h with
  | completed prefixes pc hlast => exact .completed (prefixes + 1) pc hlast
  | failed prefixes pc fault text => exact .failed (prefixes + 1) pc fault text

/-- The call of a handler that completes the instruction. -/
lemma CallOutcome.of_isPlain {budget : ℕ} {handler : Handler ε} {m : Machine ε σ}
    {outcome : Machine ε σ × Except Fault Unit} (hplain : handler.IsPlain)
    (h : callWithin budget handler m = some outcome) :
    CallOutcome m ((callsWithin budget handler m).map Call.handler) outcome := by
  rw [callWithin_of_isPlain hplain] at h
  rw [callsWithin_of_isPlain hplain, ← Option.some.inj h]
  exact .completed 0 m.cpu.regs.pc hplain

/-- With the handlers of the library, every call that ends has one of the two outcomes. -/
lemma callOutcome_of_callWithin {budget : ℕ} {handler : Handler ε} {m : Machine ε σ}
    {outcome : Machine ε σ × Except Fault Unit} (hlibrary : m.cpu.tables.LibraryOnly)
    (hhandler : handler.IsLibrary) (h : callWithin budget handler m = some outcome) :
    CallOutcome m ((callsWithin budget handler m).map Call.handler) outcome := by
  induction budget generalizing handler m with
  | zero =>
      rcases hhandler.isPlain_or with hplain | rfl
      · exact .of_isPlain hplain h
      · exact absurd h (Option.some_ne_none _).symm
  | succ budget ih =>
      rcases hhandler.isPlain_or with hplain | rfl
      · exact .of_isPlain hplain h
      · cases hslot : m.cpu.tables.extended? (Bus.read8 m.bus (m.cpu.regs.pc + 1)) with
        | none =>
            rw [callWithin_prefixCB_of_none budget hslot] at h
            rw [callsWithin_prefixCB_of_none budget hslot, ← Option.some.inj h]
            exact .failed 1 _ _ _
        | some found =>
            rw [callWithin_prefixCB_of_some budget hslot] at h
            rw [callsWithin_prefixCB_of_some budget hslot]
            exact (ih (m := m.jump (m.cpu.regs.pc + 1 + 1)) hlibrary
              (hlibrary.extended hslot) h).cons

/-- **What a step does that is not a dispatch.**  With the handlers of the library, a step
that ends runs some prefixes and then one last handler, or fails behind them. -/
lemma callOutcome_of_step {m : Machine ε σ} {outcome : Machine ε σ × Except Fault UInt32}
    (hlibrary : m.cpu.tables.LibraryOnly) (hidle : m.pendingInterrupt? = none)
    (h : m.step = some outcome) :
    ∃ called, CallOutcome m.restartClock m.handlersRun called ∧ outcome = withCycles called := by
  rw [step, stepWithin_of_not_pending hidle] at h
  rw [handlersRun, calls]
  cases hslot : m.cpu.tables.primary? (Bus.read8 m.bus m.cpu.regs.pc) with
  | none =>
      rw [hslot] at h
      refine ⟨_, .failed 0 m.cpu.regs.pc _ _, (Option.some.inj h).symm⟩
  | some handler =>
      rw [hslot] at h
      obtain ⟨called, hcall, rfl⟩ := Option.map_eq_some_iff.mp h
      exact ⟨called, callOutcome_of_callWithin (m := m.restartClock) hlibrary
        (hlibrary.primary hslot) hcall, rfl⟩

end Machine

end DmgCore
