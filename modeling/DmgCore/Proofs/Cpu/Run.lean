import DmgCore.Proofs.Cpu.HandlerCalls

/-!
Runs of a processor in a system that does something of its own between the steps.

A run is made of moves in any order: steps of the processor, and changes from outside, of
which a parameter says what they are and what they do.  Each move leaves an event behind, and
the events of a run are its history.

* `Event`: what is seen of one move; a step either dispatches a source or executes the opcode
  at PC, successfully or not;
* `Machine.Move`, `Machine.Run`: one move with its event, and any number of moves with their
  history;
* `Act`, `Machine.Acts`: what peripherals and the embedding system do by way of the bus and the
  reset line;
* `Machine.Run.append_iff`: a history splits wherever one likes;
* `Machine.Run.induction_library`: what one move in front keeps holds of every run of the
  handlers of the library;
* `Machine.Run.switch_iff`: a condition that events turn on and off is as the last of
  them left it.
-/

namespace DmgCore

/-- What is seen of one move, where `κ` are the changes from outside. -/
inductive Event (ε κ : Type) where
  /-- A step took the interrupt of a source while SP had the given value, and came to this
  result. -/
  | dispatch (source : Interrupt) (sp : UInt16) (result : Except Fault UInt32)
  /-- A step executed the opcode at PC: it ran these handlers and came to this result. -/
  | execute (handlers : List (Handler ε)) (result : Except Fault UInt32)
  /-- Something was changed between two steps. -/
  | outside (change : κ)

/-- What is done to a machine between two steps. -/
inductive Act (σ : Type) where
  /-- A peripheral requests an interrupt. -/
  | request (source : Interrupt)
  /-- The embedding system writes a byte. -/
  | store (addr : UInt16) (value : UInt8)
  /-- The contents of the address space are changed at will. -/
  | memory (bus : σ)
  /-- The registers are set to zero. -/
  | reset

namespace Machine

variable {ε σ κ : Type} [Bus σ]

/-- The machine after an act. -/
def act (m : Machine ε σ) : Act σ → Machine ε σ
  | .request source => { m with bus := source.request m.bus }
  | .store addr value => m.write8 addr value
  | .memory bus => { m with bus }
  | .reset => m.reset

/-- An act as a change from outside. -/
def Acts (m : Machine ε σ) (act : Act σ) (m' : Machine ε σ) : Prop := m' = m.act act

variable [InstructionSet ε]

section Relations

variable (Outside : Machine ε σ → κ → Machine ε σ → Prop)

/-- The machine `m` can become `m'` by one move, with the given event. -/
inductive Move : Machine ε σ → Event ε κ → Machine ε σ → Prop
  | dispatch {m m' : Machine ε σ} {source : Interrupt} {result : Except Fault UInt32}
      (hpending : m.pendingInterrupt? = some source) (hstep : m.step = some (m', result)) :
      Move m (.dispatch source m.cpu.regs.sp result) m'
  | execute {m m' : Machine ε σ} {result : Except Fault UInt32}
      (hpending : m.pendingInterrupt? = none) (hstep : m.step = some (m', result)) :
      Move m (.execute m.handlersRun result) m'
  | outside {m m' : Machine ε σ} {change : κ} (hchange : Outside m change m') :
      Move m (.outside change) m'

/-- The machine `m` can become `m'` by moves with the given history, oldest event first. -/
inductive Run : Machine ε σ → List (Event ε κ) → Machine ε σ → Prop
  | nil (m : Machine ε σ) : Run m [] m
  | cons {m m₁ m' : Machine ε σ} {event : Event ε κ} {history : List (Event ε κ)}
      (hmove : Move Outside m event m₁) (hrest : Run m₁ history m') :
      Run m (event :: history) m'

/-- No change from outside brings an instruction of the embedding system into the tables. -/
def KeepsLibrary : Prop :=
  ∀ {m : Machine ε σ} {change : κ} {m' : Machine ε σ}, Outside m change m' →
    m.cpu.tables.LibraryOnly → m'.cpu.tables.LibraryOnly

end Relations

/-! ### Moves -/

/-- A step with an interrupt to take has one outcome, the dispatch. -/
lemma dispatched_of_step {m m' : Machine ε σ} {source : Interrupt}
    {result : Except Fault UInt32} (hpending : m.pendingInterrupt? = some source)
    (hstep : m.step = some (m', result)) : m.Dispatched source.index m' := by
  obtain ⟨next, hnext, hdispatched⟩ := step_of_pending hpending
  obtain ⟨rfl, -⟩ := Prod.mk.inj (Option.some.inj (hnext.symm.trans hstep))
  exact hdispatched

/-- With the handlers of the library, executing an opcode writes nothing and leaves the
tables alone. -/
lemma keeps_bus_of_step {m m' : Machine ε σ} {result : Except Fault UInt32}
    (hlibrary : m.cpu.tables.LibraryOnly) (hpending : m.pendingInterrupt? = none)
    (hstep : m.step = some (m', result)) : m'.bus = m.bus ∧ m'.cpu.tables = m.cpu.tables := by
  rw [step_of_not_pending hpending] at hstep
  exact executeWithin_keeps_bus (m := m.restartClock) hlibrary hstep

omit [InstructionSet ε] in
/-- No act touches the tables. -/
lemma keepsLibrary_acts : KeepsLibrary (Acts : Machine ε σ → Act σ → Machine ε σ → Prop) := by
  rintro m act _ rfl hlibrary
  cases act with
  | request source => exact hlibrary
  | store addr value => exact hlibrary
  | memory bus => exact hlibrary
  | reset => exact hlibrary

variable {Outside : Machine ε σ → κ → Machine ε σ → Prop}

/-- No move brings an instruction of the embedding system into the tables. -/
lemma Move.libraryOnly {m m' : Machine ε σ} {event : Event ε κ} (h : Move Outside m event m')
    (hkeeps : KeepsLibrary Outside) (hlibrary : m.cpu.tables.LibraryOnly) :
    m'.cpu.tables.LibraryOnly := by
  cases h with
  | dispatch hpending hstep => exact (dispatched_of_step hpending hstep).tables ▸ hlibrary
  | execute hpending hstep => exact (keeps_bus_of_step hlibrary hpending hstep).2 ▸ hlibrary
  | outside hchange => exact hkeeps hchange hlibrary

/-! ### Runs -/

/-- A history splits wherever one likes. -/
lemma Run.append_iff {m m' : Machine ε σ} {first rest : List (Event ε κ)} :
    Run Outside m (first ++ rest) m' ↔
      ∃ next, Run Outside m first next ∧ Run Outside next rest m' := by
  induction first generalizing m with
  | nil =>
      constructor
      · intro h
        exact ⟨m, .nil m, h⟩
      · rintro ⟨next, hnil, hrest⟩
        cases hnil
        exact hrest
  | cons event first ih =>
      constructor
      · intro h
        cases h with
        | cons hmove hrest =>
            obtain ⟨next, hfirst, hlast⟩ := ih.mp hrest
            exact ⟨next, .cons hmove hfirst, hlast⟩
      · rintro ⟨next, hfirst, hlast⟩
        cases hfirst with
        | cons hmove hrest => exact .cons hmove (ih.mpr ⟨next, hrest, hlast⟩)

/-- **Induction over a run.**  With the handlers of the library, a statement about a run holds if
it holds of the empty one and of every run that has one more move in front. -/
lemma Run.induction_library {motive : Machine ε σ → List (Event ε κ) → Machine ε σ → Prop}
    (hkeeps : KeepsLibrary Outside)
    (hnil : ∀ {m : Machine ε σ}, m.cpu.tables.LibraryOnly → motive m [] m)
    (hcons : ∀ {m m₁ m' : Machine ε σ} {event : Event ε κ} {history : List (Event ε κ)},
      m.cpu.tables.LibraryOnly → Move Outside m event m₁ → motive m₁ history m' →
        motive m (event :: history) m')
    {m m' : Machine ε σ} {history : List (Event ε κ)} (hrun : Run Outside m history m')
    (hlibrary : m.cpu.tables.LibraryOnly) : motive m history m' := by
  induction hrun with
  | nil m => exact hnil hlibrary
  | cons hmove hrest ih => exact hcons hlibrary hmove (ih (hmove.libraryOnly hkeeps hlibrary))

/-- No run brings an instruction of the embedding system into the tables. -/
lemma Run.libraryOnly {m m' : Machine ε σ} {history : List (Event ε κ)}
    (hrun : Run Outside m history m') (hkeeps : KeepsLibrary Outside)
    (hlibrary : m.cpu.tables.LibraryOnly) : m'.cpu.tables.LibraryOnly :=
  Run.induction_library (motive := fun _ _ m' => m'.cpu.tables.LibraryOnly) hkeeps id
    (fun _ _ h => h) hrun hlibrary

/-- **A switch is as the last event that turned it left it.**  If every move leaves a
condition as it was, but for events that turn it off and events that turn it on, then after
a run it holds just if it was turned on and not turned off later, or if it held at first
and was never turned off. -/
lemma Run.switch_iff {P : Machine ε σ → Prop} {ok on off : Event ε κ → Prop}
    (hkeeps : KeepsLibrary Outside)
    (hswitch : ∀ {m event m'}, Move Outside m event m' → m.cpu.tables.LibraryOnly → ok event →
      (P m' ↔ P m ∧ ¬ off event ∨ on event))
    {m m' : Machine ε σ} {history : List (Event ε κ)} (hrun : Run Outside m history m')
    (hlibrary : m.cpu.tables.LibraryOnly) (hok : ∀ event ∈ history, ok event) :
    P m' ↔ (P m ∧ ∀ event ∈ history, ¬ off event) ∨
      ∃ pre event post, history = pre ++ event :: post ∧ on event ∧
        ∀ later ∈ post, ¬ off later := by
  refine Run.induction_library (motive := fun m history m' => (∀ event ∈ history, ok event) →
    (P m' ↔ (P m ∧ ∀ event ∈ history, ¬ off event) ∨
      ∃ pre event post, history = pre ++ event :: post ∧ on event ∧
        ∀ later ∈ post, ¬ off later)) hkeeps (fun _ _ => by simp) ?_ hrun hlibrary hok
  intro m m₁ m' event history hlibrary hmove ih hok
  obtain ⟨hfirst, hlater⟩ := List.forall_mem_cons.mp hok
  rw [ih hlater, hswitch hmove hlibrary hfirst]
  constructor
  · rintro (⟨⟨hP, hoff⟩ | hon, hnone⟩ | ⟨pre, turned, post, rfl, hon, hnone⟩)
    · exact Or.inl ⟨hP, List.forall_mem_cons.mpr ⟨hoff, hnone⟩⟩
    · exact Or.inr ⟨[], event, history, rfl, hon, hnone⟩
    · exact Or.inr ⟨event :: pre, turned, post, rfl, hon, hnone⟩
  · rintro (⟨hP, hnone⟩ | ⟨pre, turned, post, hsplit, hon, hnone⟩)
    · obtain ⟨hoff, hrest⟩ := List.forall_mem_cons.mp hnone
      exact Or.inl ⟨Or.inl ⟨hP, hoff⟩, hrest⟩
    · cases pre with
      | nil =>
          obtain ⟨rfl, rfl⟩ := List.cons.inj hsplit
          exact Or.inl ⟨Or.inr hon, hnone⟩
      | cons first pre =>
          obtain ⟨rfl, rfl⟩ := List.cons.inj hsplit
          exact Or.inr ⟨pre, turned, post, rfl, hon, hnone⟩

end Machine

end DmgCore
