import Mathlib.Tactic.Common
import DmgCore.Cpu.Step

/-!
Machines whose opcode tables hold nothing but the handlers of the library.

* `OpcodeTables.LibraryOnly`: no slot of either table holds an instruction of the
  embedding system;
* `Machine.executeWithin_preserves`: what every handler of the library and every
  report keeps, the execution of an opcode keeps, through however many look-ups in
  the extended table and whether it succeeds or fails;
* `Machine.executeWithin_keeps_bus`: no execution writes to the address space or
  changes a table.
-/

namespace DmgCore

variable {ε σ : Type}

/-- A handler that is not an instruction of the embedding system. -/
def Handler.IsLibrary : Handler ε → Prop
  | .custom _ => False
  | _ => True

/-- Tables in which every handler is one of the library. -/
structure OpcodeTables.LibraryOnly (tables : OpcodeTables ε) : Prop where
  primary : ∀ {opcode handler}, tables.primary? opcode = some handler → handler.IsLibrary
  extended : ∀ {opcode handler}, tables.extended? opcode = some handler → handler.IsLibrary

/-- Without instructions of the embedding system there are only handlers of the library. -/
lemma OpcodeTables.libraryOnly_of_isEmpty [IsEmpty ε] (tables : OpcodeTables ε) :
    tables.LibraryOnly := by
  have h : ∀ handler : Handler ε, handler.IsLibrary := by
    intro handler
    cases handler with
    | custom instruction => exact isEmptyElim instruction
    | nop => trivial
    | di => trivial
    | ei => trivial
    | reti => trivial
    | prefixCB => trivial
  exact ⟨fun {_ handler} _ => h handler, fun {_ handler} _ => h handler⟩

variable [Bus σ] [InstructionSet ε]

namespace Handler

/-- No handler of the library writes to the address space. -/
lemma bus_exec {handler : Handler ε} (h : handler.IsLibrary) (m : Machine ε σ) :
    (handler.exec m).1.bus = m.bus := by
  cases handler with
  | custom instruction => exact h.elim
  | nop => rfl
  | di => rfl
  | ei => rfl
  | reti => rfl
  | prefixCB => rfl

/-- No handler of the library changes a table. -/
lemma tables_exec {handler : Handler ε} (h : handler.IsLibrary) (m : Machine ε σ) :
    (handler.exec m).1.cpu.tables = m.cpu.tables := by
  cases handler with
  | custom instruction => exact h.elim
  | nop => rfl
  | di => rfl
  | ei => rfl
  | reti => rfl
  | prefixCB => rfl

end Handler

namespace Machine

/-! ### The chain of look-ups, one at a time -/

lemma runExtended_of_none {m : Machine ε σ} {opcode : UInt8} (budget : ℕ) (pc : UInt16)
    (h : m.cpu.tables.extended? opcode = none) :
    runExtended (budget + 1) opcode pc m =
      some (m.reportUnregisteredExtended opcode pc, .error (.noExtendedHandler opcode pc)) := by
  rw [runExtended, h]

/-- A look-up that finds a handler calls it, with one look-up fewer. -/
lemma runExtended_of_some {m : Machine ε σ} {opcode : UInt8} {handler : Handler ε} (budget : ℕ)
    (pc : UInt16) (h : m.cpu.tables.extended? opcode = some handler) :
    runExtended (budget + 1) opcode pc m = callWithin budget handler m := by
  rw [runExtended, h]
  rfl

/-- A call ends as its handler says, or goes on in the extended table. -/
lemma callWithin_eq (budget : ℕ) (handler : Handler ε) (m : Machine ε σ) :
    callWithin budget handler m =
      match (handler.exec m).2 with
      | .done => some ((handler.exec m).1, .ok ())
      | .failed fault => some ((handler.exec m).1, .error fault)
      | .extended opcode pc => runExtended budget opcode pc (handler.exec m).1 := by
  rw [callWithin]
  rcases handler.exec m with ⟨next, ending⟩
  cases ending <;> rfl

/-- A call leaves the machine as its handler does, or as the look-ups do that follow. -/
lemma callWithin_cases {budget : ℕ} {handler : Handler ε} {m m' : Machine ε σ}
    {result : Except Fault Unit} (h : callWithin budget handler m = some (m', result)) :
    m' = (handler.exec m).1 ∨
      ∃ opcode pc, runExtended budget opcode pc (handler.exec m).1 = some (m', result) := by
  rw [callWithin_eq] at h
  cases hending : (handler.exec m).2 with
  | done =>
      rw [hending] at h
      exact Or.inl (Prod.mk.inj (Option.some.inj h)).1.symm
  | failed fault =>
      rw [hending] at h
      exact Or.inl (Prod.mk.inj (Option.some.inj h)).1.symm
  | extended opcode pc =>
      rw [hending] at h
      exact Or.inr ⟨opcode, pc, h⟩

/-! ### What all handlers keep -/

section Preserves

variable {I : Machine ε σ → Prop}
  (hlibrary : ∀ m, I m → m.cpu.tables.LibraryOnly)
  (hexec : ∀ (handler : Handler ε) m, handler.IsLibrary → I m → I (handler.exec m).1)
  (hreport : ∀ m level text, I m → I (m.report level text))

include hlibrary hexec hreport

/-- A property that handlers and reports keep is kept by a chain of look-ups in the
extended table, however long. -/
lemma runExtended_preserves {budget : ℕ} {opcode : UInt8} {pc : UInt16} {m m' : Machine ε σ}
    {result : Except Fault Unit} (hm : I m)
    (h : runExtended budget opcode pc m = some (m', result)) : I m' := by
  induction budget generalizing opcode pc m with
  | zero => exact absurd h (by simp [runExtended])
  | succ budget ih =>
      cases hslot : m.cpu.tables.extended? opcode with
      | none =>
          rw [runExtended_of_none budget pc hslot] at h
          obtain ⟨rfl, -⟩ := Prod.mk.inj (Option.some.inj h)
          exact hreport m _ _ hm
      | some handler =>
          have hnext := hexec handler m ((hlibrary m hm).extended hslot) hm
          rw [runExtended_of_some budget pc hslot] at h
          rcases callWithin_cases h with rfl | ⟨opcode, pc, hchain⟩
          · exact hnext
          · exact ih hnext hchain

/-- A property that handlers and reports keep is kept by the execution of the opcode at
PC, whether it succeeds or fails. -/
lemma executeWithin_preserves {budget : ℕ} {m m' : Machine ε σ} {result : Except Fault UInt32}
    (hm : I m) (h : m.executeWithin budget = some (m', result)) : I m' := by
  rw [executeWithin] at h
  cases hslot : m.cpu.tables.primary? (Bus.read8 m.bus m.cpu.regs.pc) with
  | none =>
      rw [hslot] at h
      obtain ⟨rfl, -⟩ := Prod.mk.inj (Option.some.inj h)
      exact hreport m _ _ hm
  | some handler =>
      have hnext := hexec handler m ((hlibrary m hm).primary hslot) hm
      rw [hslot] at h
      obtain ⟨⟨called, ending⟩, hcall, heq⟩ := Option.map_eq_some_iff.mp h
      obtain ⟨rfl, -⟩ := Prod.mk.inj heq
      rcases callWithin_cases hcall with rfl | ⟨opcode, pc, hchain⟩
      · exact hnext
      · exact runExtended_preserves hlibrary hexec hreport hnext hchain

end Preserves

/-- With the handlers of the library, executing an opcode writes nothing and leaves the
tables alone. -/
lemma executeWithin_keeps_bus {budget : ℕ} {m m' : Machine ε σ} {result : Except Fault UInt32}
    (hlibrary : m.cpu.tables.LibraryOnly) (h : m.executeWithin budget = some (m', result)) :
    m'.bus = m.bus ∧ m'.cpu.tables = m.cpu.tables := by
  refine executeWithin_preserves (I := fun next : Machine ε σ =>
    next.bus = m.bus ∧ next.cpu.tables = m.cpu.tables) ?_ ?_ ?_ ⟨rfl, rfl⟩ h
  · rintro next ⟨-, htables⟩
    rw [htables]
    exact hlibrary
  · rintro handler next hhandler ⟨hbus, htables⟩
    exact ⟨(Handler.bus_exec hhandler next).trans hbus,
      (Handler.tables_exec hhandler next).trans htables⟩
  · rintro next level text ⟨hbus, htables⟩
    exact ⟨hbus, htables⟩

end Machine

end DmgCore
