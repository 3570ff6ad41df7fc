import DmgCore.Proofs.Cpu.LibraryHandlers

/-!
The look-ups in the extended table that one step makes.

The handler at PC may hand over to the extended table, and so may every handler that is
found there. The look-ups are numbered from `0`, whether their number has a bound or not.

* `Machine.LookUp`: a look-up with the machine that makes it;
* `LookUp.next?`, `LookUp.nth?`: those that follow;
* `LookUp.runExtended_add`: the chain of look-ups is cut where one likes;
* `Machine.lookUp?`: the look-ups of a step, and `Machine.stepWithin_of_lookUp?`: what
  remains of it when one of them is made;
* `Machine.stepWithin_eq_none_iff`: `n` look-ups do not suffice just when there is one
  with number `n`.
-/

namespace DmgCore

namespace Machine

variable {ε σ : Type}

/-- A look-up in the extended table. -/
structure LookUp (ε σ : Type) where
  /-- The opcode that is looked up. -/
  opcode : UInt8
  /-- The address to name if there is no handler for it. -/
  pc : UInt16
  /-- The machine as the handler before has left it. -/
  machine : Machine ε σ

namespace LookUp

/-- The look-up that a handler leaves to be made, if it hands over. -/
def ofEnding? : Machine ε σ × Ending → Option (LookUp ε σ)
  | (m, .extended opcode pc) => some ⟨opcode, pc, m⟩
  | (_, .done) => none
  | (_, .failed _) => none

/-- The handler that is found. -/
def handler? (l : LookUp ε σ) : Option (Handler ε) := l.machine.cpu.tables.extended? l.opcode

variable [Bus σ] [InstructionSet ε]

/-- The look-up to which the handler that is found hands over. -/
def next? (l : LookUp ε σ) : Option (LookUp ε σ) :=
  l.handler?.bind fun handler => ofEnding? (handler.exec l.machine)

/-- The look-up that comes `n` places later. -/
def nth? : ℕ → LookUp ε σ → Option (LookUp ε σ)
  | 0, l => some l
  | n + 1, l => l.next?.bind (nth? n)

/-- Each look-up of a chain follows the one before it. -/
lemma nth?_succ (n : ℕ) (l : LookUp ε σ) : l.nth? (n + 1) = (l.nth? n).bind next? := by
  induction n generalizing l with
  | zero => cases hnext : l.next? <;> simp [nth?, hnext]
  | succ n ih =>
      rw [nth?]
      cases hnext : l.next? with
      | none => simp [nth?, hnext]
      | some next => rw [Option.bind_some, ih next, nth?, hnext, Option.bind_some]

/-- A call that hands over goes on with that look-up. -/
lemma callWithin_of_ofEnding? {handler : Handler ε} {m : Machine ε σ} {l : LookUp ε σ}
    (h : ofEnding? (handler.exec m) = some l) (n : ℕ) :
    callWithin n handler m = runExtended n l.opcode l.pc l.machine := by
  rw [callWithin_eq]
  rcases hexec : handler.exec m with ⟨next, ending⟩
  rw [hexec] at h
  cases ending with
  | done => exact absurd h (Option.some_ne_none l).symm
  | failed fault => exact absurd h (Option.some_ne_none l).symm
  | extended opcode pc =>
      obtain rfl := Option.some.inj h
      rfl

/-- A call that does not hand over ends without a look-up. -/
lemma exists_callWithin_of_ofEnding? {handler : Handler ε} {m : Machine ε σ}
    (h : ofEnding? (handler.exec m) = none) :
    ∃ result, ∀ n, callWithin n handler m = some ((handler.exec m).1, result) := by
  rcases hexec : handler.exec m with ⟨next, ending⟩
  rw [hexec] at h
  cases ending with
  | done => exact ⟨.ok (), fun n => by rw [callWithin_eq, hexec]⟩
  | failed fault => exact ⟨.error fault, fun n => by rw [callWithin_eq, hexec]⟩
  | extended opcode pc => exact absurd h (Option.some_ne_none _)

/-- A look-up that is followed by another leaves everything else to it. -/
lemma runExtended_succ {l next : LookUp ε σ} (h : l.next? = some next) (n : ℕ) :
    runExtended (n + 1) l.opcode l.pc l.machine =
      runExtended n next.opcode next.pc next.machine := by
  obtain ⟨handler, hfound, hnext⟩ := Option.bind_eq_some_iff.mp h
  rw [runExtended_of_some n l.pc hfound, callWithin_of_ofEnding? hnext]

/-- A chain of look-ups goes on as the chain from any of its members. -/
lemma runExtended_add {l later : LookUp ε σ} {i : ℕ} (h : l.nth? i = some later) (n : ℕ) :
    runExtended (i + n) l.opcode l.pc l.machine =
      runExtended n later.opcode later.pc later.machine := by
  induction i generalizing l with
  | zero =>
      obtain rfl := Option.some.inj h
      rw [Nat.zero_add]
  | succ i ih =>
      obtain ⟨next, hnext, hlater⟩ := Option.bind_eq_some_iff.mp h
      rw [Nat.add_right_comm, runExtended_succ hnext, ih hlater]

/-- A look-up that no other follows is the last one. -/
lemma exists_runExtended_of_next? {l : LookUp ε σ} (h : l.next? = none) :
    ∃ outcome, ∀ n, runExtended (n + 1) l.opcode l.pc l.machine = some outcome := by
  cases hfound : l.handler? with
  | none => exact ⟨_, fun n => runExtended_of_none n l.pc hfound⟩
  | some handler =>
      rw [next?, hfound] at h
      obtain ⟨result, hcall⟩ := exists_callWithin_of_ofEnding? h
      exact ⟨_, fun n => (runExtended_of_some n l.pc hfound).trans (hcall n)⟩

/-- So many look-ups do not suffice just when one more is made. -/
lemma runExtended_eq_none_iff (n : ℕ) (l : LookUp ε σ) :
    runExtended n l.opcode l.pc l.machine = none ↔ ∃ later, l.nth? n = some later := by
  induction n generalizing l with
  | zero => simp [runExtended, nth?]
  | succ n ih =>
      rw [nth?]
      cases hnext : l.next? with
      | none =>
          obtain ⟨outcome, hrun⟩ := exists_runExtended_of_next? hnext
          simp [hrun n]
      | some next => rw [runExtended_succ hnext, ih next, Option.bind_some]

end LookUp

/-! ### The look-ups of a step -/

variable [Bus σ] [InstructionSet ε]

/-- Reports the cycles where a call has succeeded. -/
def withCycles (outcome : Machine ε σ × Except Fault Unit) : Machine ε σ × Except Fault UInt32 :=
  (outcome.1, outcome.2.map fun _ => outcome.1.cpu.clock)

/-- The look-up with number `n` in the execution of the opcode at PC. -/
def lookUp? (m : Machine ε σ) (n : ℕ) : Option (LookUp ε σ) :=
  (m.cpu.tables.primary? (Bus.read8 m.bus m.cpu.regs.pc)).bind fun handler =>
    (LookUp.ofEnding? (handler.exec m.restartClock)).bind (LookUp.nth? n)

/-- Each look-up of a step follows the one before it. -/
lemma lookUp?_succ {m : Machine ε σ} {l : LookUp ε σ} {n : ℕ} (h : m.lookUp? n = some l) :
    m.lookUp? (n + 1) = l.next? := by
  obtain ⟨handler, hfound, hrest⟩ := Option.bind_eq_some_iff.mp h
  obtain ⟨first, hfirst, hnth⟩ := Option.bind_eq_some_iff.mp hrest
  rw [lookUp?, hfound, Option.bind_some, hfirst, Option.bind_some, LookUp.nth?_succ, hnth,
    Option.bind_some]

/-- A step without an interrupt to take calls the handler at PC, if there is one. -/
lemma stepWithin_of_not_pending {m : Machine ε σ} (hidle : m.pendingInterrupt? = none) (n : ℕ) :
    m.stepWithin n =
      match m.cpu.tables.primary? (Bus.read8 m.bus m.cpu.regs.pc) with
      | none =>
        some (m.restartClock.reportUnregistered (Bus.read8 m.bus m.cpu.regs.pc) m.cpu.regs.pc,
          .error (.noHandler (Bus.read8 m.bus m.cpu.regs.pc) m.cpu.regs.pc))
      | some handler => (callWithin n handler m.restartClock).map withCycles := by
  have hrestart : m.restartClock.pendingInterrupt? = none := hidle
  rw [stepWithin, hrestart]
  rfl

/-- When a look-up is made, the rest of the step is what it leads to. -/
lemma stepWithin_of_lookUp? {m : Machine ε σ} {l : LookUp ε σ} {i : ℕ}
    (hidle : m.pendingInterrupt? = none) (hl : m.lookUp? i = some l) (n : ℕ) :
    m.stepWithin (i + n) = (runExtended n l.opcode l.pc l.machine).map withCycles := by
  obtain ⟨handler, hfound, hrest⟩ := Option.bind_eq_some_iff.mp hl
  obtain ⟨first, hfirst, hnth⟩ := Option.bind_eq_some_iff.mp hrest
  rw [stepWithin_of_not_pending hidle, hfound]
  dsimp only
  rw [LookUp.callWithin_of_ofEnding? hfirst, LookUp.runExtended_add hnth]

/-- **A step needs more than `n` look-ups just when it makes one with number `n`.** -/
theorem stepWithin_eq_none_iff {m : Machine ε σ} (hidle : m.pendingInterrupt? = none) (n : ℕ) :
    m.stepWithin n = none ↔ ∃ l, m.lookUp? n = some l := by
  rw [lookUp?, stepWithin_of_not_pending hidle]
  cases hfound : m.cpu.tables.primary? (Bus.read8 m.bus m.cpu.regs.pc) with
  | none => simp
  | some handler =>
      dsimp only
      rw [Option.map_eq_none_iff, Option.bind_some]
      cases hfirst : LookUp.ofEnding? (handler.exec m.restartClock) with
      | none =>
          obtain ⟨result, hcall⟩ := LookUp.exists_callWithin_of_ofEnding? hfirst
          simp [hcall n]
      | some first =>
          rw [LookUp.callWithin_of_ofEnding? hfirst, LookUp.runExtended_eq_none_iff,
            Option.bind_some]

end Machine

end DmgCore
