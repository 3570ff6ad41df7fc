import DmgCore.Proofs.Cpu.Run

/-!
Interrupt requests over a run: none is lost and none invented.

IF is one byte that peripherals set bits of and the processor clears bits of, each by
reading it and writing it back.

* `Machine.Move.testBit_iff`: one move leaves a bit of IF as it was, unless a
  dispatch clears it or a request sets it;
* `Machine.Run.isSet_iff_requested`: over a whole run a bit is set just if it was
  requested, or set at the start, and not served since; and a source is served only
  when it is the most urgent of those requested and enabled.
-/

namespace DmgCore

namespace Event

variable {ε σ : Type}

/-- The event is a request of the source with number `i`. -/
def Requests (i : ℕ) : Event ε (Act σ) → Prop
  | .outside (.request source) => source.index = i
  | _ => False

/-- The event is a dispatch of the source with number `i`. -/
def Serves (i : ℕ) : Event ε (Act σ) → Prop
  | .dispatch source _ _ => source.index = i
  | _ => False

/-- The event puts no byte on IF: neither byte of a return address, none that the embedding
system writes, and no new contents of the whole address space. -/
def SparesRequests : Event ε (Act σ) → Prop
  | .dispatch _ sp _ =>
    sp - 2 ≠ MemoryMap.interruptRequest ∧ sp - 1 ≠ MemoryMap.interruptRequest
  | .outside (.store addr _) => addr ≠ MemoryMap.interruptRequest
  | .outside (.memory _) => False
  | _ => True

/-- A source's dispatches are the events that serve it. -/
lemma serves_iff {source : Interrupt} {event : Event ε (Act σ)} :
    event.Serves source.index ↔ ∃ sp result, event = .dispatch source sp result := by
  constructor
  · intro h
    cases event with
    | dispatch served sp result => exact ⟨sp, result, by rw [Interrupt.index_inj h]⟩
    | execute handlers result => exact h.elim
    | outside act => exact h.elim
  · rintro ⟨sp, result, rfl⟩
    rfl

/-- A source's request is the one event that requests it. -/
lemma requests_iff {source : Interrupt} {event : Event ε (Act σ)} :
    event.Requests source.index ↔ event = .outside (.request source) := by
  constructor
  · intro h
    cases event with
    | dispatch served sp result => exact h.elim
    | execute handlers result => exact h.elim
    | outside act =>
        cases act with
        | request requested => rw [Interrupt.index_inj h]
        | store addr value => exact h.elim
        | memory bus => exact h.elim
        | reset => exact h.elim
  · rintro rfl
    rfl

/-- A source is never served in a history without a dispatch of it. -/
lemma forall_not_serves_iff {source : Interrupt} {history : List (Event ε (Act σ))} :
    (∀ event ∈ history, ¬ event.Serves source.index) ↔
      ∀ sp result, .dispatch source sp result ∉ history := by
  constructor
  · intro h sp result hmem
    exact h _ hmem rfl
  · intro h event hmem hserves
    obtain ⟨sp, result, rfl⟩ := serves_iff.mp hserves
    exact h sp result hmem

/-- No event touches the three bits of IF without a source. -/
lemma not_serves_of_five_le {i : ℕ} (event : Event ε (Act σ)) (hi : 5 ≤ i) :
    ¬ event.Serves i ∧ ¬ event.Requests i := by
  have hne : ∀ source : Interrupt, source.index ≠ i := fun source =>
    Nat.ne_of_lt (Nat.lt_of_lt_of_le source.index_lt hi)
  cases event with
  | dispatch served sp result => exact ⟨hne served, id⟩
  | execute handlers result => exact ⟨id, id⟩
  | outside act =>
      cases act with
      | request requested => exact ⟨id, hne requested⟩
      | store addr value => exact ⟨id, id⟩
      | memory bus => exact ⟨id, id⟩
      | reset => exact ⟨id, id⟩

end Event

namespace Machine

variable {ε : Type} [InstructionSet ε]

/-- A source may be served: interrupts are admitted, it is requested and enabled, and no
more urgent source is both. -/
structure MayServe (m : Machine ε FlatMemory) (source : Interrupt) : Prop where
  admitted : m.cpu.ime = true
  requested : source.isSet m.requestBits = true
  enabled : source.isSet m.enableBits = true
  most_urgent : ∀ other : Interrupt, other.index < source.index →
    ¬ (other.isSet m.requestBits = true ∧ other.isSet m.enableBits = true)

omit [InstructionSet ε] in
/-- The source that is taken may be served. -/
lemma mayServe_of_pending {m : Machine ε FlatMemory} {source : Interrupt}
    (h : m.pendingInterrupt? = some source) : m.MayServe source := by
  obtain ⟨hadmitted, hurgent⟩ := pendingInterrupt?_eq_some_iff.mp h
  obtain ⟨hset, hlower⟩ := (Interrupt.mostUrgent?_eq_some_iff _ _).mp hurgent
  have hboth : ∀ other : Interrupt, other.isSet m.pendingBits =
      (other.isSet m.enableBits && other.isSet m.requestBits) := fun other => other.isSet_and _ _
  rw [hboth, Bool.and_eq_true] at hset
  refine ⟨hadmitted, hset.2, hset.1, ?_⟩
  rintro other hlt ⟨hrequested, henabled⟩
  have hclear := hlower other hlt
  rw [hboth, hrequested, henabled] at hclear
  exact absurd hclear (by simp)

variable {m m' : Machine ε FlatMemory} {history : List (Event ε (Act FlatMemory))}

/-- One move leaves a bit of IF as it was, unless it serves or requests its source. -/
lemma Move.testBit_iff {event : Event ε (Act FlatMemory)} (h : Move Acts m event m')
    (hlibrary : m.cpu.tables.LibraryOnly) (hspares : event.SparesRequests) (i : ℕ) :
    m'.requestBits.toNat.testBit i = true ↔
      m.requestBits.toNat.testBit i = true ∧ ¬ event.Serves i ∨ event.Requests i := by
  cases h with
  | @dispatch _ source result hpending hstep =>
      have hbit := (dispatched_of_step hpending hstep).memory.request hspares.1 hspares.2 i
      have hserves : (i ≠ source.index) ↔ ¬ source.index = i := not_congr eq_comm
      rw [requestBits, hbit, Bool.and_eq_true, decide_eq_true_eq, hserves]
      exact (or_iff_left not_false).symm
  | execute hpending hstep =>
      rw [requestBits, (keeps_bus_of_step hlibrary hpending hstep).1]
      simp [Event.Serves, Event.Requests, requestBits]
  | @outside _ act hact =>
      obtain rfl := hact
      cases act with
      | request source =>
          rw [requestBits, Machine.act, Interrupt.request, FlatMemory.read8_write8_self,
            Interrupt.testBit_request, Bool.or_eq_true, decide_eq_true_eq, @eq_comm _ i]
          exact or_congr_left (and_iff_left not_false).symm
      | store addr value =>
          have hne : MemoryMap.interruptRequest ≠ addr := Ne.symm hspares
          rw [requestBits, Machine.act, write8, FlatMemory.read8_write8_of_ne _ hne]
          simp [Event.Serves, Event.Requests, requestBits]
      | memory bus => exact hspares.elim
      | reset => simp [Event.Serves, Event.Requests, requestBits, Machine.act, Machine.reset]

/-- Over a run, a bit of IF is set just if it was set at the start, or requested during the
run, and not served since. -/
lemma Run.testBit_iff (hrun : Run Acts m history m') (hlibrary : m.cpu.tables.LibraryOnly)
    (hspares : ∀ event ∈ history, event.SparesRequests) (i : ℕ) :
    m'.requestBits.toNat.testBit i = true ↔
      (m.requestBits.toNat.testBit i = true ∧ ∀ event ∈ history, ¬ event.Serves i) ∨
      ∃ pre event post, history = pre ++ event :: post ∧ event.Requests i ∧
        ∀ later ∈ post, ¬ later.Serves i :=
  Run.switch_iff (P := fun m => m.requestBits.toNat.testBit i = true) keepsLibrary_acts
    (fun hmove hlibrary hok => hmove.testBit_iff hlibrary hok i) hrun hlibrary hspares

/-- **No request is lost and none is invented.**  Let steps, requests, resets and writes to
other addresses than IF follow each other in any order, and let no return address fall on
IF.  Then a source is requested at the end just if it was requested, at the start or by one
of the events, and no later step dispatched it; the bits of IF without a source never
change; and whenever a source is dispatched, it might be served. -/
theorem Run.isSet_iff_requested (hrun : Run Acts m history m')
    (hlibrary : m.cpu.tables.LibraryOnly)
    (hspares : ∀ event ∈ history, event.SparesRequests) :
    (∀ source : Interrupt, source.isSet m'.requestBits = true ↔
      (source.isSet m.requestBits = true ∧
        ∀ sp result, .dispatch source sp result ∉ history) ∨
      ∃ pre post, history = pre ++ .outside (.request source) :: post ∧
        ∀ sp result, .dispatch source sp result ∉ post) ∧
    (∀ i, 5 ≤ i → m'.requestBits.toNat.testBit i = m.requestBits.toNat.testBit i) ∧
    ∀ pre source sp result post, history = pre ++ .dispatch source sp result :: post →
      ∃ before after, Run Acts m pre before ∧ before.MayServe source ∧
        Move Acts before (.dispatch source sp result) after ∧ Run Acts after post m' := by
  refine ⟨fun source => ?_, fun i hi => ?_, ?_⟩
  · have hbit := hrun.testBit_iff hlibrary hspares source.index
    simp only [Event.requests_iff, Event.forall_not_serves_iff] at hbit
    refine hbit.trans (or_congr Iff.rfl ?_)
    constructor
    · rintro ⟨pre, event, post, hsplit, rfl, hlater⟩
      exact ⟨pre, post, hsplit, hlater⟩
    · rintro ⟨pre, post, hsplit, hlater⟩
      exact ⟨pre, _, post, hsplit, rfl, hlater⟩
  · have huntouched := fun event : Event ε (Act FlatMemory) => event.not_serves_of_five_le hi
    rw [Bool.eq_iff_iff, hrun.testBit_iff hlibrary hspares i]
    constructor
    · rintro (⟨hset, -⟩ | ⟨pre, event, post, -, hrequests, -⟩)
      · exact hset
      · exact absurd hrequests (huntouched event).2
    · intro hset
      exact Or.inl ⟨hset, fun event _ => (huntouched event).1⟩
  · rintro pre source sp result post rfl
    obtain ⟨before, hbefore, hrest⟩ := Run.append_iff.mp hrun
    cases hrest with
    | cons hmove hafter =>
        refine ⟨before, _, hbefore, ?_, hmove, hafter⟩
        cases hmove with
        | dispatch hpending hstep => exact mayServe_of_pending hpending

/-- The timer is requested and served, then the joypad is requested: only the joypad is
left. -/
theorem Run.isSet_iff_requested_joypad :
    let mem := Bus.write8 FlatMemory.zero MemoryMap.interruptEnable 0x1F
    let m : Machine Empty FlatMemory := ⟨⟨{ sp := 0xC000 }, true, 0, .interruptControl⟩, mem, #[]⟩
    let history : List (Event Empty (Act FlatMemory)) :=
      [.outside (.request .timer), .dispatch .timer 0xC000 (.ok 20), .outside (.request .joypad)]
    ∃ m', Run Acts m history m' ∧ Interrupt.joypad.isSet m'.requestBits = true ∧
      Interrupt.timer.isSet m'.requestBits = false := by
  intro mem m history
  have hmem : ∀ addr, Bus.read8 (Interrupt.timer.request mem) addr =
      if addr = MemoryMap.interruptRequest then 4
      else if addr = MemoryMap.interruptEnable then 0x1F else 0 := by
    intro addr
    simp only [Interrupt.request, mem, FlatMemory.read8_write8, FlatMemory.read8_zero]
    rfl
  let requested : Machine Empty FlatMemory := { m with bus := Interrupt.timer.request mem }
  have hpending : requested.pendingInterrupt? = some .timer := by
    rw [pendingInterrupt?_eq_some_iff, pendingBits, hmem, hmem]
    decide
  obtain ⟨served, hstep, -⟩ := step_of_pending hpending
  have hrun : Run Acts m history { served with bus := Interrupt.joypad.request served.bus } :=
    .cons (.outside rfl) (.cons (.dispatch hpending hstep) (.cons (.outside rfl) (.nil _)))
  obtain ⟨hset, -, -⟩ := hrun.isSet_iff_requested (OpcodeTables.libraryOnly_of_isEmpty _)
    (by simp [history, Event.SparesRequests]; decide)
  refine ⟨_, hrun, (hset .joypad).mpr (Or.inr
    ⟨[.outside (.request .timer), .dispatch .timer 0xC000 (.ok 20)], [], rfl, by simp⟩), ?_⟩
  rw [← Bool.not_eq_true, hset .timer]
  rintro (⟨-, hnone⟩ | ⟨pre, post, hsplit, hlater⟩)
  · exact hnone 0xC000 (.ok 20) (by simp [history])
  · cases pre with
    | nil =>
        obtain ⟨-, rfl⟩ := List.cons.inj hsplit
        exact hlater 0xC000 (.ok 20) (by simp)
    | cons first pre =>
        -- behind the first event the timer is not requested
        have hmem : (.outside (.request .timer) : Event Empty (Act FlatMemory)) ∈
            [.dispatch .timer 0xC000 (.ok 20), .outside (.request .joypad)] := by
          rw [(List.cons.inj hsplit).2]
          simp
        simp at hmem

end Machine

end DmgCore
