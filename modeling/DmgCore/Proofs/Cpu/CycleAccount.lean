import Mathlib.Algebra.GroupWithZero.Nat
import DmgCore.Proofs.Cpu.InterruptBurst

/-!
The cycles that steps are charged, one by one and over a run.

Every step counts from zero and is charged once, by the dispatch of an interrupt or by the
one handler that completes the instruction.

* `Handler.cycles`: what a handler of the library charges;
* `Machine.StepCost`: the three ways in which a step ends, with the handlers it ran and the
  clock it leaves; `Machine.stepCost_of_step` says that there is no other;
* `Machine.ChargesFit`: the additions to the clock in one step, none of which wraps;
* `Machine.Adjusts`: what may be done between two steps of a run, which is anything that brings
  no instruction of the embedding system into the tables;
* `Event.returnedSum`, `Event.dispatches`, `Event.executed`: what the steps of a run returned and
  what they did;
* `Machine.cycles_are_accounted`: the cycles of one step, and their sum over a run.
-/

namespace DmgCore

variable {ε σ : Type}

namespace Handler

/-- The cycles that a handler of the library charges. -/
def cycles : Handler ε → UInt32
  | nop => 4
  | di => 4
  | ei => 4
  | reti => 16
  | prefixCB => 0
  | custom _ => 0

/-- Whether a handler is RETI. -/
def isReti : Handler ε → Bool
  | reti => true
  | nop => false
  | di => false
  | ei => false
  | prefixCB => false
  | custom _ => false

/-- Whether a handler is NOP, DI or EI. -/
def isShort : Handler ε → Bool
  | nop => true
  | di => true
  | ei => true
  | reti => false
  | prefixCB => false
  | custom _ => false

/-- RETI charges `16` cycles, the three short handlers `4`, and the others none. -/
lemma toNat_cycles (handler : Handler ε) :
    handler.cycles.toNat = 16 * handler.isReti.toNat + 4 * handler.isShort.toNat := by
  cases handler <;> rfl

lemma toNat_cycles_le (handler : Handler ε) : handler.cycles.toNat ≤ 16 := by
  cases handler <;> simp [cycles]

/-- No handler charges what an interrupt costs. -/
lemma cycles_ne_twenty (handler : Handler ε) : handler.cycles ≠ 20 := by
  intro h
  have hle := handler.toNat_cycles_le
  rw [h] at hle
  exact absurd hle (by decide)

/-- Of the handlers that complete an instruction, only RETI charges `16` cycles. -/
lemma IsPlain.cycles_eq_sixteen_iff {handler : Handler ε} (h : handler.IsPlain) :
    handler.cycles = 16 ↔ handler = .reti := by
  cases handler with
  | custom instruction => exact h.elim
  | prefixCB => exact h.elim
  | nop => simp [cycles]
  | di => simp [cycles]
  | ei => simp [cycles]
  | reti => simp [cycles]

/-- Of the handlers that complete an instruction, the others charge `4`. -/
lemma IsPlain.cycles_eq_four_iff {handler : Handler ε} (h : handler.IsPlain) :
    handler.cycles = 4 ↔ handler = .nop ∨ handler = .di ∨ handler = .ei := by
  cases handler with
  | custom instruction => exact h.elim
  | prefixCB => exact h.elim
  | nop => simp [cycles]
  | di => simp [cycles]
  | ei => simp [cycles]
  | reti => simp [cycles]

lemma IsPlain.isLibrary {handler : Handler ε} (h : handler.IsPlain) : handler.IsLibrary := by
  cases handler with
  | custom instruction => exact h.elim
  | prefixCB => exact h.elim
  | nop => trivial
  | di => trivial
  | ei => trivial
  | reti => trivial

variable [Bus σ] [InstructionSet ε]

/-- A handler of the library adds its cycles to the clock and does nothing else to it. -/
lemma IsLibrary.clock_exec {handler : Handler ε} (h : handler.IsLibrary) (m : Machine ε σ) :
    (handler.exec m).1.cpu.clock = m.cpu.clock + handler.cycles := by
  cases handler with
  | custom instruction => exact h.elim
  | prefixCB => exact (UInt32.add_zero m.cpu.clock).symm
  | nop => rfl
  | di => rfl
  | ei => rfl
  | reti => rfl

end Handler

namespace Event

variable {κ : Type}

/-- The cycles that a step returned, if it succeeded. -/
def returned? : Event ε κ → Option UInt32
  | dispatch _ _ result => result.toOption
  | execute _ result => result.toOption
  | outside _ => none

/-- Whether a step took an interrupt. -/
def isDispatch : Event ε κ → Bool
  | dispatch .. => true
  | execute .. => false
  | outside _ => false

/-- The handlers that a step ran. -/
def handlers : Event ε κ → List (Handler ε)
  | dispatch .. => []
  | execute handlers _ => handlers
  | outside _ => []

/-- The sum of the cycles that the steps of a history returned, as a whole number. -/
def returnedSum (history : List (Event ε κ)) : ℕ :=
  ((history.filterMap returned?).map UInt32.toNat).sum

/-- The interrupts that were taken. -/
def dispatches (history : List (Event ε κ)) : ℕ := history.countP isDispatch

/-- The handlers that were run and have a property. -/
def executed (p : Handler ε → Bool) (history : List (Event ε κ)) : ℕ :=
  (history.flatMap handlers).countP p

lemma returnedSum_cons (event : Event ε κ) (history : List (Event ε κ)) :
    returnedSum (event :: history) = event.returned?.elim 0 UInt32.toNat + returnedSum history := by
  rw [returnedSum, returnedSum, List.filterMap_cons]
  cases event.returned? with
  | none => simp
  | some cycles => simp

lemma dispatches_cons (event : Event ε κ) (history : List (Event ε κ)) :
    dispatches (event :: history) = event.isDispatch.toNat + dispatches history := by
  rw [dispatches, dispatches, List.countP_cons]
  cases event.isDispatch with
  | false => simp
  | true => simp [Nat.add_comm]

lemma executed_cons (p : Handler ε → Bool) (event : Event ε κ) (history : List (Event ε κ)) :
    executed p (event :: history) = event.handlers.countP p + executed p history := by
  rw [executed, executed, List.flatMap_cons, List.countP_append]

end Event

namespace Machine

variable [Bus σ] [InstructionSet ε]

/-! ### One step -/

/-- What a step is charged that leaves `m'`: `20` cycles for a dispatch, the cycles of the
one handler that completes the instruction behind some prefixes, or nothing if it fails. -/
inductive StepCost (m : Machine ε σ) : Machine ε σ → Except Fault UInt32 → Prop
  | dispatch {m' : Machine ε σ} (hwaiting : m.HasWaiting) (hclock : m'.cpu.clock = 20) :
      StepCost m m' (.ok 20)
  | completed {m' : Machine ε σ} (prefixes : ℕ) (last : Handler ε) (hidle : ¬ m.HasWaiting)
      (hlast : last.IsPlain) (hrun : m.handlersRun = List.replicate prefixes .prefixCB ++ [last])
      (hclock : m'.cpu.clock = last.cycles) : StepCost m m' (.ok last.cycles)
  | failed {m' : Machine ε σ} (prefixes : ℕ) (fault : Fault) (hidle : ¬ m.HasWaiting)
      (hrun : m.handlersRun = List.replicate prefixes .prefixCB)
      (hclock : m'.cpu.clock = 0) : StepCost m m' (.error fault)

/-- With the handlers of the library, every step that ends is charged in one of the ways. -/
lemma stepCost_of_step {m m' : Machine ε σ} {result : Except Fault UInt32}
    (hlibrary : m.cpu.tables.LibraryOnly) (hstep : m.step = some (m', result)) :
    m.StepCost m' result := by
  cases hpending : m.pendingInterrupt? with
  | some source =>
      obtain ⟨next, hnext, hdispatched⟩ := step_of_pending hpending
      obtain ⟨rfl, rfl⟩ := Prod.mk.inj (Option.some.inj (hnext.symm.trans hstep))
      exact .dispatch ((exists_pendingInterrupt?_iff m).mp ⟨source, hpending⟩) hdispatched.clock
  | none =>
      have hidle := (pendingInterrupt?_eq_none_iff m).mp hpending
      obtain ⟨called, houtcome, heq⟩ := callOutcome_of_step hlibrary hpending hstep
      obtain ⟨rfl, rfl⟩ := Prod.mk.inj heq
      generalize hrun : m.handlersRun = handlers at houtcome
      cases houtcome with
      | @completed prefixes pc last hlast =>
          -- the clock is at zero until the last handler is called
          have hclock : (last.exec (m.restartClock.jump pc)).1.cpu.clock = last.cycles :=
            (hlast.isLibrary.clock_exec _).trans (UInt32.zero_add _)
          have hcost := StepCost.completed prefixes last hidle hlast hrun hclock
          rw [← hclock] at hcost
          exact hcost
      | failed prefixes pc fault text => exact .failed prefixes fault hidle hrun rfl

/-- What is returned by a step that leaves `m'` and succeeds. -/
structure Metered (m m' : Machine ε σ) (cycles : UInt32) : Prop where
  clock : m'.cpu.clock = cycles
  dispatch : cycles = 20 ↔ m.HasWaiting
  reti : cycles = 16 ↔ ¬ m.HasWaiting ∧ m.handlersRun.getLast? = some .reti
  short : cycles = 4 ↔ ¬ m.HasWaiting ∧ (m.handlersRun.getLast? = some .nop ∨
    m.handlersRun.getLast? = some .di ∨ m.handlersRun.getLast? = some .ei)
  /-- Where no interrupt is taken, the handlers before the last one are prefixes. -/
  prefixes : ¬ m.HasWaiting → ∃ n last, last.IsPlain ∧
    m.handlersRun = List.replicate n .prefixCB ++ [last]

lemma metered_of_step {m m' : Machine ε σ} {cycles : UInt32}
    (hlibrary : m.cpu.tables.LibraryOnly) (hstep : m.step = some (m', .ok cycles)) :
    m.Metered m' cycles := by
  cases stepCost_of_step hlibrary hstep with
  | dispatch hwaiting hclock =>
      exact {
        clock := hclock
        dispatch := iff_of_true rfl hwaiting
        reti := iff_of_false (by decide) fun h => h.1 hwaiting
        short := iff_of_false (by decide) fun h => h.1 hwaiting
        prefixes := fun hidle => absurd hwaiting hidle }
  | completed prefixes last hidle hlast hrun hclock =>
      have hgetLast : m.handlersRun.getLast? = some last := by
        rw [hrun, List.getLast?_concat]
      refine ⟨hclock, iff_of_false last.cycles_ne_twenty hidle, ?_, ?_,
        fun _ => ⟨prefixes, last, hlast, hrun⟩⟩
      · rw [hlast.cycles_eq_sixteen_iff, hgetLast, Option.some_inj, and_iff_right hidle]
      · rw [hlast.cycles_eq_four_iff, hgetLast, Option.some_inj, Option.some_inj,
          Option.some_inj, and_iff_right hidle]

/-! ### The additions of a step -/

/-- Whatever calls a handler of the library leads to find the clock as the first one does. -/
lemma clock_of_mem_callsWithin {budget : ℕ} {handler : Handler ε} {m : Machine ε σ}
    (hlibrary : m.cpu.tables.LibraryOnly) (hhandler : handler.IsLibrary) :
    ∀ call ∈ callsWithin budget handler m,
      call.handler.IsLibrary ∧ call.machine.cpu.clock = m.cpu.clock := by
  have honly : ∀ (first : Handler ε) (m₁ : Machine ε σ), first.IsLibrary →
      ∀ call ∈ [(⟨first, m₁⟩ : Call ε σ)],
        call.handler.IsLibrary ∧ call.machine.cpu.clock = m₁.cpu.clock :=
    fun first m₁ hfirst => List.forall_mem_singleton.mpr ⟨hfirst, rfl⟩
  induction budget generalizing handler m with
  | zero => exact honly handler m hhandler
  | succ budget ih =>
      rcases hhandler.isPlain_or with hplain | rfl
      · rw [callsWithin_of_isPlain hplain]
        exact honly handler m hhandler
      · cases hslot : m.cpu.tables.extended? (Bus.read8 m.bus (m.cpu.regs.pc + 1)) with
        | none =>
            rw [callsWithin_prefixCB_of_none budget hslot]
            exact honly .prefixCB m hhandler
        | some found =>
            rw [callsWithin_prefixCB_of_some budget hslot]
            exact List.forall_mem_cons.mpr ⟨⟨hhandler, rfl⟩,
              ih (m := m.jump (m.cpu.regs.pc + 1 + 1)) hlibrary (hlibrary.extended hslot)⟩

/-- Every call that a step makes is one of a handler of the library, with the clock at zero. -/
lemma clock_of_mem_calls {m : Machine ε σ} {call : Call ε σ}
    (hlibrary : m.cpu.tables.LibraryOnly) (h : call ∈ m.calls) :
    call.handler.IsLibrary ∧ call.machine.cpu.clock = 0 := by
  rw [calls] at h
  cases hslot : m.cpu.tables.primary? (Bus.read8 m.bus m.cpu.regs.pc) with
  | none =>
      rw [hslot] at h
      exact absurd h List.not_mem_nil
  | some handler =>
      rw [hslot] at h
      exact clock_of_mem_callsWithin (m := m.restartClock) hlibrary (hlibrary.primary hslot) call h

/-- The additions to the clock in one step, in whole numbers: no sum exceeds `20`. -/
structure ChargesFit (m : Machine ε σ) : Prop where
  /-- A dispatch adds once. -/
  dispatch : ∀ source, m.pendingInterrupt? = some source →
    m.step = some ((m.restartClock.serviceInterrupt source).charge interruptCycles, .ok 20) ∧
    (m.restartClock.serviceInterrupt source).cpu.clock.toNat + interruptCycles.toNat = 20
  /-- Each handler that is called adds its cycles. -/
  call : m.pendingInterrupt? = none → ∀ call ∈ m.calls,
    (call.handler.exec call.machine).1.cpu.clock.toNat =
      call.machine.cpu.clock.toNat + call.handler.cycles.toNat ∧
    call.machine.cpu.clock.toNat + call.handler.cycles.toNat ≤ 20

lemma chargesFit {m : Machine ε σ} (hlibrary : m.cpu.tables.LibraryOnly) : m.ChargesFit where
  dispatch source hpending := by
    have hrestart : m.restartClock.pendingInterrupt? = some source := hpending
    refine ⟨?_, rfl⟩
    rw [step, stepWithin, hrestart]
    rfl
  call _ call hmem := by
    obtain ⟨hhandler, hzero⟩ := clock_of_mem_calls hlibrary hmem
    rw [hhandler.clock_exec, hzero, UInt32.zero_add, UInt32.toNat_zero, Nat.zero_add]
    have hle := call.handler.toNat_cycles_le
    exact ⟨rfl, by omega⟩

/-! ### Runs -/

/-- What the embedding system may do between two steps: it changes whatever it likes, the clock
included, as long as it puts no instruction of its own into the tables. -/
def Adjusts (m : Machine ε σ) (_ : Unit) (m' : Machine ε σ) : Prop :=
  m.cpu.tables.LibraryOnly → m'.cpu.tables.LibraryOnly

omit [Bus σ] [InstructionSet ε] in
lemma keepsLibrary_adjusts : KeepsLibrary (Adjusts : Machine ε σ → Unit → Machine ε σ → Prop) :=
  fun hadjust hlibrary => hadjust hlibrary

/-- One move: what the step returned is what it did. -/
lemma Move.balanced {m m' : Machine ε σ} {event : Event ε Unit} (h : Move Adjusts m event m')
    (hlibrary : m.cpu.tables.LibraryOnly) :
    event.returned?.elim 0 UInt32.toNat = 20 * event.isDispatch.toNat +
      16 * event.handlers.countP Handler.isReti + 4 * event.handlers.countP Handler.isShort := by
  -- a prefix counts for nothing
  have hprefixes : ∀ (p : Handler ε → Bool) n, p .prefixCB = false →
      (List.replicate n (.prefixCB : Handler ε)).countP p = 0 := by
    intro p n hp
    rw [List.countP_replicate, hp]
    rfl
  cases h with
  | outside hadjust => rfl
  | dispatch hpending hstep =>
      have hwaiting := (exists_pendingInterrupt?_iff m).mp ⟨_, hpending⟩
      cases stepCost_of_step hlibrary hstep with
      | dispatch _ hclock => rfl
      | completed prefixes last hidle => exact absurd hwaiting hidle
      | failed prefixes fault hidle => exact absurd hwaiting hidle
  | execute hpending hstep =>
      cases stepCost_of_step hlibrary hstep with
      | dispatch hwaiting => exact absurd hwaiting ((pendingInterrupt?_eq_none_iff m).mp hpending)
      | completed prefixes last hidle hlast hrun =>
          have hcount : ∀ p : Handler ε → Bool, p .prefixCB = false →
              m.handlersRun.countP p = (p last).toNat := by
            intro p hp
            rw [hrun, List.countP_append, hprefixes p prefixes hp, Nat.zero_add,
              List.countP_singleton]
            cases p last <;> rfl
          calc last.cycles.toNat
              = 16 * last.isReti.toNat + 4 * last.isShort.toNat := last.toNat_cycles
            _ = 16 * m.handlersRun.countP Handler.isReti +
                4 * m.handlersRun.countP Handler.isShort := by
                  rw [hcount Handler.isReti rfl, hcount Handler.isShort rfl]
            _ = _ := by simp [Event.isDispatch, Event.handlers]
      | failed prefixes fault hidle hrun =>
          simp only [Event.handlers, hrun, hprefixes Handler.isReti prefixes rfl,
            hprefixes Handler.isShort prefixes rfl]
          rfl

/-- Over a whole run, too, what the steps returned is what they did. -/
lemma Run.balanced {m m' : Machine ε σ} {history : List (Event ε Unit)}
    (hrun : Run Adjusts m history m') (hlibrary : m.cpu.tables.LibraryOnly) :
    Event.returnedSum history = 20 * Event.dispatches history +
      16 * Event.executed Handler.isReti history + 4 * Event.executed Handler.isShort history := by
  -- no clock is carried from one move to the next, only what the tables hold
  refine Run.induction_library (motive := fun _ history _ => Event.returnedSum history =
      20 * Event.dispatches history + 16 * Event.executed Handler.isReti history +
        4 * Event.executed Handler.isShort history)
    keepsLibrary_adjusts (fun _ => rfl) ?_ hrun hlibrary
  intro m m₁ m' event history hlibrary hmove ih
  rw [Event.returnedSum_cons, Event.dispatches_cons, Event.executed_cons, Event.executed_cons,
    hmove.balanced hlibrary, ih]
  omega

/-- Every step that ends is a move. -/
lemma exists_move_of_step {m m' : Machine ε σ} {result : Except Fault UInt32}
    (h : m.step = some (m', result)) :
    ∃ event, Move Adjusts m event m' ∧ .outside () ≠ event ∧
      event.returned? = result.toOption := by
  cases hpending : m.pendingInterrupt? with
  | none => exact ⟨_, .execute hpending h, nofun, rfl⟩
  | some source => exact ⟨_, .dispatch hpending h, nofun, rfl⟩

/-- Steps that follow one another are a run, in the history of which there is nothing but
steps. -/
lemma exists_run_of_runFrom {n : ℕ} {m m' : Machine ε σ} {before taken : Array UInt32}
    {ending : Except Fault Unit} (h : runFrom before n m = some (m', taken, ending)) :
    ∃ history, Run Adjusts m history m' ∧ .outside () ∉ history ∧
      taken.toList = before.toList ++ history.filterMap Event.returned? := by
  induction n generalizing before m with
  | zero =>
      obtain ⟨rfl, heq⟩ := Prod.mk.inj (Option.some.inj h)
      obtain ⟨rfl, -⟩ := Prod.mk.inj heq
      exact ⟨[], .nil m, List.not_mem_nil, by simp⟩
  | succ n ih =>
      cases hstep : m.step with
      | none =>
          rw [runFrom, hstep] at h
          exact absurd h (Option.some_ne_none _).symm
      | some outcome =>
          obtain ⟨next, result⟩ := outcome
          obtain ⟨event, hmove, hinside, hreturned⟩ := exists_move_of_step hstep
          rw [runFrom, hstep] at h
          cases result with
          | error fault =>
              obtain ⟨rfl, heq⟩ := Prod.mk.inj (Option.some.inj h)
              obtain ⟨rfl, -⟩ := Prod.mk.inj heq
              exact ⟨[event], .cons hmove (.nil _), by simpa using hinside,
                by simp [hreturned, Except.toOption]⟩
          | ok cycles =>
              obtain ⟨history, hrun, hnone, htaken⟩ := ih h
              refine ⟨event :: history, .cons hmove hrun, ?_, ?_⟩
              · rw [List.mem_cons, not_or]
                exact ⟨hinside, hnone⟩
              · rw [htaken]
                simp [hreturned, Except.toOption]

/-- **Every step is charged once, from zero.**  Let the tables hold only handlers of the
library.  A step does not depend on what the clock showed before.  If it succeeds, it
returns the clock it leaves: `20` cycles just when it takes an interrupt, else `16` just
when the last handler it runs is RETI and `4` just when that is NOP, DI or EI, however
many prefixes come first; if it fails, it has run only prefixes and leaves the clock at
zero.  No addition to the clock wraps or comes to more than `20`.  What the steps of a run
return then adds up to `20` for each dispatch, `16` for each RETI and `4` for each NOP, DI
and EI, whatever is done between the steps, the clock changed included. -/
theorem cycles_are_accounted {m : Machine ε σ} (hlibrary : m.cpu.tables.LibraryOnly) :
    (∀ clock, ({ m with cpu := { m.cpu with clock } } : Machine ε σ).step = m.step) ∧
    (∀ m' cycles, m.step = some (m', .ok cycles) → m.Metered m' cycles) ∧
    (∀ m' fault, m.step = some (m', .error fault) →
      m'.cpu.clock = 0 ∧ ∃ n, m.handlersRun = List.replicate n .prefixCB) ∧
    m.ChargesFit ∧
    (∀ history m', Run Adjusts m history m' →
      Event.returnedSum history = 20 * Event.dispatches history +
        16 * Event.executed Handler.isReti history +
        4 * Event.executed Handler.isShort history) ∧
    (∀ n m' taken ending, m.run n = some (m', taken, ending) → ∃ history,
      Run Adjusts m history m' ∧ .outside () ∉ history ∧
        taken.toList = history.filterMap Event.returned?) := by
  refine ⟨fun clock => rfl, fun m' cycles hstep => metered_of_step hlibrary hstep,
    fun m' fault hstep => ?_, chargesFit hlibrary,
    fun history m' hrun => hrun.balanced hlibrary, fun n m' taken ending hrun => ?_⟩
  · cases stepCost_of_step hlibrary hstep with
    | failed prefixes _ hidle hran hclock => exact ⟨hclock, prefixes, hran⟩
  · obtain ⟨history, hmoves, hsteps, htaken⟩ := exists_run_of_runFrom hrun
    exact ⟨history, hmoves, hsteps, by rw [htaken, List.nil_append]⟩

/-- A dispatch and a RETI with the clock at its greatest before each of them. -/
theorem cycles_are_accounted_full_clock :
    let handlers := Bus.write8 FlatMemory.zero 0x40 0xD9
    let mem := Bus.write8 (Bus.write8 handlers MemoryMap.interruptRequest 1)
      MemoryMap.interruptEnable 0x1F
    let m : Machine Empty FlatMemory :=
      ⟨⟨{ sp := 0xC000 }, true, 0xFFFFFFFF, .interruptControl⟩, mem, #[]⟩
    let history : List (Event Empty Unit) :=
      [.dispatch .vBlank 0xC000 (.ok 20), .outside (), .execute [.reti] (.ok 16)]
    m.cpu.tables.LibraryOnly ∧ ∃ m', Run Adjusts m history m' ∧
      Event.returnedSum history = 36 := by
  intro handlers mem m history
  have hmem : ∀ addr, Bus.read8 mem addr =
      if addr = MemoryMap.interruptEnable then 0x1F
      else if addr = MemoryMap.interruptRequest then 1 else if addr = 0x40 then 0xD9 else 0 := by
    intro addr
    simp only [mem, handlers, FlatMemory.read8_write8, FlatMemory.read8_zero]
  have hlibrary : m.cpu.tables.LibraryOnly := OpcodeTables.libraryOnly_of_isEmpty _
  have hpending : m.pendingInterrupt? = some .vBlank := by
    rw [pendingInterrupt?_eq_some_iff, pendingBits, hmem, hmem]
    decide
  obtain ⟨served, hdispatch, hdispatched⟩ := step_of_pending hpending
  -- the embedding system charges cycles of its own between the two steps
  let charged : Machine Empty FlatMemory :=
    { served with cpu := { served.cpu with clock := 0xFFFFFFFF } }
  have hopcode : Bus.read8 charged.bus charged.cpu.regs.pc = 0xD9 := by
    show Bus.read8 served.bus served.cpu.regs.pc = 0xD9
    rw [hdispatched.regs, hdispatched.memory.other _ (by decide) (by decide) (by decide), hmem]
    decide
  have hslot : charged.cpu.tables.primary? 0xD9 = some .reti :=
    hdispatched.tables ▸ OpcodeTables.primary?_interruptControl_reti
  have hmasked : charged.cpu.ime = false := hdispatched.ime
  have hadjust : served.Adjusts () charged := id
  have hrun : Run Adjusts m history (Handler.execReti charged.restartClock) :=
    .cons (.dispatch hpending hdispatch) (.cons (.outside hadjust)
      (.cons (.reti hmasked hslot hopcode) (.nil _)))
  obtain ⟨-, -, -, -, hsum, -⟩ := cycles_are_accounted hlibrary
  exact ⟨hlibrary, _, hrun, hsum history _ hrun⟩

end Machine

end DmgCore
