import DmgCore.Proofs.Cpu.InterruptBurst

/-!
The interrupt switch over a run.

Dispatches, DI, EI and RETI turn the switch; nothing else that the library has does,
wherever in the tables the handlers are found and whether or not the step succeeds.

* `Turn`, `Event.turns`: what turns the switch, and how often a move of a run turns it, in
  order;
* `Machine.Move.ime_eq`: one move leaves the switch as the last of its turns does;
* `Machine.Run.ime_iff_last_turn`: so does a whole run of steps, requests, resets and changes
  of memory, and between two dispatches an EI or a RETI was executed.
-/

namespace DmgCore

variable {ε σ : Type}

/-- The ways to turn the interrupt switch. -/
inductive Turn where
  /-- An interrupt is taken. -/
  | dispatch
  /-- DI is executed. -/
  | di
  /-- EI is executed. -/
  | ei
  /-- RETI is executed. -/
  | reti
  deriving DecidableEq, Repr

/-- Whether interrupts are admitted after a turn. -/
def Turn.admits : Turn → Bool
  | dispatch => false
  | di => false
  | ei => true
  | reti => true

/-- The turn that a handler of the library makes. -/
def Handler.turn? : Handler ε → Option Turn
  | di => some .di
  | ei => some .ei
  | reti => some .reti
  | nop => none
  | prefixCB => none
  | custom _ => none

/-- The turns of one event, in order. -/
def Event.turns {κ : Type} : Event ε κ → List Turn
  | .dispatch .. => [.dispatch]
  | .execute handlers _ => handlers.filterMap Handler.turn?
  | .outside _ => []

/-- The switch after some turns: as the last one leaves it, or as it was. -/
def Turn.switchAfter (ime : Bool) (turns : List Turn) : Bool :=
  (turns.getLast?.map admits).getD ime

namespace Turn

/-- Later turns find the switch as earlier ones left it. -/
lemma switchAfter_append (ime : Bool) (turns later : List Turn) :
    switchAfter ime (turns ++ later) = switchAfter (switchAfter ime turns) later := by
  rw [switchAfter, switchAfter, List.getLast?_append]
  cases later.getLast? with
  | none => rfl
  | some turn => rfl

/-- Interrupts are admitted after EI and RETI, and if there is no turn, when they were before. -/
lemma switchAfter_eq_true_iff {ime : Bool} {turns : List Turn} :
    switchAfter ime turns = true ↔
      turns.getLast? = some .ei ∨ turns.getLast? = some .reti ∨ turns = [] ∧ ime = true := by
  rw [switchAfter, ← List.getLast?_eq_none_iff]
  cases turns.getLast? with
  | none => simp
  | some turn => cases turn <;> simp [admits]

/-- Where interrupts were masked at first, some turn admits them. -/
lemma exists_of_switchAfter_false {turns : List Turn} (h : switchAfter false turns = true) :
    ∃ turn ∈ turns, turn.admits = true := by
  rcases switchAfter_eq_true_iff.mp h with hlast | hlast | ⟨-, hfalse⟩
  · exact ⟨.ei, List.mem_of_getLast? hlast, rfl⟩
  · exact ⟨.reti, List.mem_of_getLast? hlast, rfl⟩
  · exact absurd hfalse Bool.false_ne_true

end Turn

/-- Among handlers, only EI and RETI admit interrupts. -/
lemma Handler.ei_or_reti_mem {handlers : List (Handler ε)} {turn : Turn}
    (h : turn ∈ handlers.filterMap Handler.turn?) (hadmits : turn.admits = true) :
    .ei ∈ handlers ∨ .reti ∈ handlers := by
  obtain ⟨handler, hmem, hturn⟩ := List.mem_filterMap.mp h
  cases handler with
  | ei => exact Or.inl hmem
  | reti => exact Or.inr hmem
  | di =>
      obtain rfl := Option.some.inj hturn
      exact absurd hadmits Bool.false_ne_true
  | nop => exact absurd hturn (Option.some_ne_none _).symm
  | prefixCB => exact absurd hturn (Option.some_ne_none _).symm
  | custom instruction => exact absurd hturn (Option.some_ne_none _).symm

/-- Among events, only the execution of EI or RETI admits interrupts. -/
lemma Event.exists_execute_of_mem_turns {κ : Type} {event : Event ε κ} {turn : Turn}
    (h : turn ∈ event.turns) (hadmits : turn.admits = true) :
    ∃ handlers result, event = .execute handlers result ∧
      (.ei ∈ handlers ∨ .reti ∈ handlers) := by
  cases event with
  | execute handlers result => exact ⟨handlers, result, rfl, Handler.ei_or_reti_mem h hadmits⟩
  | dispatch source sp result =>
      obtain rfl := List.mem_singleton.mp h
      exact absurd hadmits Bool.false_ne_true
  | outside change => exact absurd h List.not_mem_nil

variable [Bus σ] [InstructionSet ε]

/-- A handler that completes an instruction leaves the switch as its turn does. -/
lemma Handler.IsPlain.ime_exec {handler : Handler ε} (h : handler.IsPlain) (m : Machine ε σ) :
    (handler.exec m).1.cpu.ime = Turn.switchAfter m.cpu.ime handler.turn?.toList := by
  cases handler with
  | custom instruction => exact h.elim
  | prefixCB => exact h.elim
  | nop => rfl
  | di => rfl
  | ei => rfl
  | reti => rfl

namespace Machine

/-! ### One move -/

/-- A call leaves the switch as the turns of its handlers do, also when it fails. -/
lemma CallOutcome.ime_eq {m : Machine ε σ} {handlers : List (Handler ε)}
    {outcome : Machine ε σ × Except Fault Unit} (h : CallOutcome m handlers outcome) :
    outcome.1.cpu.ime = Turn.switchAfter m.cpu.ime (handlers.filterMap Handler.turn?) := by
  -- prefixes make no turn
  have hprefixes : ∀ n, (List.replicate n (.prefixCB : Handler ε)).filterMap Handler.turn? = [] :=
    fun n => List.filterMap_replicate_of_none rfl
  cases h with
  | @completed prefixes pc last hlast =>
      rw [List.filterMap_append, hprefixes, List.nil_append, hlast.ime_exec, List.filterMap_cons]
      cases last.turn? with
      | none => rfl
      | some turn => rfl
  | failed prefixes pc fault text =>
      rw [hprefixes]
      rfl

/-- A step that executes an opcode leaves the switch as the turns of its handlers do. -/
lemma ime_of_step {m m' : Machine ε σ} {result : Except Fault UInt32}
    (hlibrary : m.cpu.tables.LibraryOnly) (hidle : m.pendingInterrupt? = none)
    (hstep : m.step = some (m', result)) :
    m'.cpu.ime = Turn.switchAfter m.cpu.ime (m.handlersRun.filterMap Handler.turn?) := by
  obtain ⟨called, houtcome, heq⟩ := callOutcome_of_step hlibrary hidle hstep
  obtain ⟨rfl, -⟩ := Prod.mk.inj heq
  exact houtcome.ime_eq

/-- Where interrupts are masked, a step that executes neither EI nor RETI keeps them so. -/
lemma masked_of_step {m m' : Machine ε σ} {result : Except Fault UInt32}
    (hlibrary : m.cpu.tables.LibraryOnly) (hmasked : m.cpu.ime = false)
    (hstep : m.step = some (m', result)) (hei : .ei ∉ m.handlersRun)
    (hreti : .reti ∉ m.handlersRun) : m'.cpu.ime = false := by
  rw [ime_of_step hlibrary (pendingInterrupt?_of_masked hmasked) hstep, hmasked,
    ← Bool.not_eq_true]
  intro hadmitted
  obtain ⟨turn, hturn, hadmits⟩ := Turn.exists_of_switchAfter_false hadmitted
  exact (Handler.ei_or_reti_mem hturn hadmits).elim hei hreti

variable {m m' : Machine ε σ} {history : List (Event ε (Act σ))}

omit [InstructionSet ε] in
/-- No act turns the switch. -/
lemma Acts.ime_eq {act : Act σ} (h : Acts m act m') : m'.cpu.ime = m.cpu.ime := by
  obtain rfl := h
  cases act with
  | request source => rfl
  | store addr value => rfl
  | memory bus => rfl
  | reset => rfl

/-- Every move leaves the switch as its turns do. -/
lemma Move.ime_eq {event : Event ε (Act σ)} (h : Move Acts m event m')
    (hlibrary : m.cpu.tables.LibraryOnly) :
    m'.cpu.ime = Turn.switchAfter m.cpu.ime event.turns := by
  cases h with
  | dispatch hpending hstep => exact (dispatched_of_step hpending hstep).ime
  | execute hidle hstep => exact ime_of_step hlibrary hidle hstep
  | outside hact => exact hact.ime_eq

/-! ### Runs -/

/-- A run leaves the switch as its turns do. -/
lemma Run.ime_eq (hrun : Run Acts m history m') (hlibrary : m.cpu.tables.LibraryOnly) :
    m'.cpu.ime = Turn.switchAfter m.cpu.ime (history.flatMap Event.turns) := by
  refine Run.induction_library (motive := fun m history m' =>
    m'.cpu.ime = Turn.switchAfter m.cpu.ime (history.flatMap Event.turns)) keepsLibrary_acts
    (fun _ => rfl) ?_ hrun hlibrary
  intro m m₁ m' event history hlibrary hmove ih
  rw [ih, hmove.ime_eq hlibrary, List.flatMap_cons, Turn.switchAfter_append]

/-- **The interrupt switch is as it was turned last.**  Let steps, requests, resets and
changes of memory follow each other in any order.  With the handlers of the library,
interrupts are then admitted just when the last turn of the switch was EI or RETI, or
there was none and they were admitted at first; and between two dispatches some step
executed EI or RETI. -/
theorem Run.ime_iff_last_turn (hrun : Run Acts m history m')
    (hlibrary : m.cpu.tables.LibraryOnly) :
    (m'.cpu.ime = true ↔
      (history.flatMap Event.turns).getLast? = some .ei ∨
      (history.flatMap Event.turns).getLast? = some .reti ∨
      history.flatMap Event.turns = [] ∧ m.cpu.ime = true) ∧
    ∀ pre first sp result between second sp' result' post,
      history = pre ++ .dispatch first sp result ::
        (between ++ .dispatch second sp' result' :: post) →
      ∃ handlers result, .execute handlers result ∈ between ∧
        (.ei ∈ handlers ∨ .reti ∈ handlers) := by
  refine ⟨?_, ?_⟩
  · rw [hrun.ime_eq hlibrary]
    exact Turn.switchAfter_eq_true_iff
  · rintro pre first sp result between second sp' result' post rfl
    obtain ⟨before, hpre, hrest⟩ := Run.append_iff.mp hrun
    have hbefore := hpre.libraryOnly keepsLibrary_acts hlibrary
    cases hrest with
    | @cons _ masked _ _ _ hfirst hrest =>
        obtain ⟨pending, hbetween, hlast⟩ := Run.append_iff.mp hrest
        -- the first dispatch masks interrupts, and the second finds them admitted
        have hmasked : masked.cpu.ime = false := hfirst.ime_eq hbefore
        have hadmitted : pending.cpu.ime = true := by
          cases hlast with
          | cons hsecond hpost =>
              cases hsecond with
              | dispatch hpending hstep => exact (pendingInterrupt?_eq_some_iff.mp hpending).1
        rw [hbetween.ime_eq (hfirst.libraryOnly keepsLibrary_acts hbefore), hmasked] at hadmitted
        obtain ⟨turn, hturn, hadmits⟩ := Turn.exists_of_switchAfter_false hadmitted
        obtain ⟨event, hmem, hof⟩ := List.mem_flatMap.mp hturn
        obtain ⟨handlers, result, rfl, hhandlers⟩ := Event.exists_execute_of_mem_turns hof hadmits
        exact ⟨handlers, result, hmem, hhandlers⟩

/-- Two dispatches with RETI, a reset and new contents of memory between them. -/
theorem Run.ime_iff_last_turn_reti :
    let handlers := Bus.write8 FlatMemory.zero 0x40 0xD9
    let mem := Bus.write8 (Bus.write8 handlers MemoryMap.interruptRequest 1)
      MemoryMap.interruptEnable 0x1F
    let later := Bus.write8 (Bus.write8 FlatMemory.zero MemoryMap.interruptRequest 4)
      MemoryMap.interruptEnable 0x1F
    let m : Machine Empty FlatMemory :=
      ⟨⟨{ sp := 0xC000 }, true, 0, .interruptControl⟩, mem, #[]⟩
    let between : List (Event Empty (Act FlatMemory)) :=
      [.execute [.reti] (.ok 16), .outside .reset, .outside (.memory later)]
    ∃ m', Run Acts m (.dispatch .vBlank 0xC000 (.ok 20) ::
        (between ++ [.dispatch .timer 0 (.ok 20)])) m' ∧
      m'.cpu.ime = false ∧ ∃ handlers result, .execute handlers result ∈ between ∧
        (.ei ∈ handlers ∨ .reti ∈ handlers) := by
  intro handlers mem later m between
  have hmem : ∀ addr, Bus.read8 mem addr =
      if addr = MemoryMap.interruptEnable then 0x1F
      else if addr = MemoryMap.interruptRequest then 1 else if addr = 0x40 then 0xD9 else 0 := by
    intro addr
    simp only [mem, handlers, FlatMemory.read8_write8, FlatMemory.read8_zero]
  have hfirst : m.pendingInterrupt? = some .vBlank := by
    rw [pendingInterrupt?_eq_some_iff, pendingBits, hmem, hmem]
    decide
  obtain ⟨served, hdispatch, hdispatched⟩ := step_of_pending hfirst
  have hopcode : Bus.read8 served.bus served.cpu.regs.pc = 0xD9 := by
    rw [hdispatched.regs, hdispatched.memory.other _ (by decide) (by decide) (by decide), hmem]
    decide
  have hslot : served.cpu.tables.primary? 0xD9 = some .reti :=
    hdispatched.tables ▸ OpcodeTables.primary?_interruptControl_reti
  let returned : Machine Empty FlatMemory :=
    { (Handler.execReti served.restartClock).reset with bus := later }
  have hlater : ∀ addr, Bus.read8 returned.bus addr =
      if addr = MemoryMap.interruptEnable then 0x1F
      else if addr = MemoryMap.interruptRequest then 4 else 0 := by
    intro addr
    simp only [returned, later, FlatMemory.read8_write8, FlatMemory.read8_zero]
  have hsecond : returned.pendingInterrupt? = some .timer := by
    rw [pendingInterrupt?_eq_some_iff, pendingBits, hlater, hlater]
    exact ⟨rfl, by decide⟩
  obtain ⟨m', hlast, -⟩ := step_of_pending hsecond
  have hrun : Run Acts m (.dispatch .vBlank 0xC000 (.ok 20) ::
      (between ++ [.dispatch .timer 0 (.ok 20)])) m' :=
    .cons (.dispatch hfirst hdispatch) (.cons (.reti hdispatched.ime hslot hopcode)
      (.cons (.outside rfl) (.cons (.outside rfl) (.cons (.dispatch hsecond hlast) (.nil _)))))
  obtain ⟨hime, hturned⟩ := hrun.ime_iff_last_turn (OpcodeTables.libraryOnly_of_isEmpty _)
  refine ⟨m', hrun, ?_, hturned [] .vBlank 0xC000 (.ok 20) between .timer 0 (.ok 20) [] rfl⟩
  rw [← Bool.not_eq_true, hime]
  simp [between, Event.turns, Handler.turn?]

end Machine

end DmgCore
