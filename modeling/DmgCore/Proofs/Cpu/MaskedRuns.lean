import DmgCore.Proofs.Cpu.SwitchHistory

/-!
Interrupt requests while interrupts are masked.

Two runs start with the same processor, which has interrupts masked, and with the same
bytes but for IF and IE; and in each run IF and IE are disturbed between the steps, in
different ways.

* `Machine.SameProgram`: the same processor, and the same bytes but for IF and IE;
* `Machine.SameProgram.exec`, `Machine.SameProgram.call`, `Machine.SameProgram.step`: a
  handler, the calls it leads to and a step keep this, if they read neither IF nor IE;
* `Machine.Disturbance`, `Machine.beforeStep`: a run in which IF and IE are disturbed;
* `Machine.SameStep`: two steps that the processor cannot tell apart;
* `Machine.beforeStep_sameStep_of_masked`: up to the step that admits interrupts again, the
  two runs make the same steps.
-/

section RelatedOptions

variable {α β γ δ : Type} {r : α → β → Prop} {s : γ → δ → Prop} {a : Option α} {b : Option β}

/-- Values that are related in one way are related in every way that follows for them. -/
lemma Option.Rel.imp {t : α → β → Prop} (h : Option.Rel r a b)
    (himp : ∀ x y, a = Option.some x → b = Option.some y → r x y → t x y) : Option.Rel t a b := by
  cases h with
  | none => exact .none
  | some hr => exact .some (himp _ _ rfl rfl hr)

/-- Related values have related images. -/
lemma Option.Rel.map {f : α → γ} {g : β → δ} (h : Option.Rel r a b)
    (hnext : ∀ x y, a = Option.some x → b = Option.some y → r x y → s (f x) (g y)) :
    Option.Rel s (a.map f) (b.map g) := by
  cases h with
  | none => exact .none
  | some hr => exact .some (hnext _ _ rfl rfl hr)

/-- Related values have related continuations. -/
lemma Option.Rel.bind {f : α → Option γ} {g : β → Option δ} (h : Option.Rel r a b)
    (hnext : ∀ x y, a = Option.some x → b = Option.some y → r x y → Option.Rel s (f x) (g y)) :
    Option.Rel s (a.bind f) (b.bind g) := by
  cases h with
  | none => exact .none
  | some hr => exact hnext _ _ rfl rfl hr

end RelatedOptions

namespace DmgCore

variable {ε σ : Type}

/-- IF or IE. -/
def IsInterruptRegister (addr : UInt16) : Prop :=
  addr = MemoryMap.interruptRequest ∨ addr = MemoryMap.interruptEnable

instance : DecidablePred IsInterruptRegister := fun addr =>
  inferInstanceAs (Decidable (addr = MemoryMap.interruptRequest ∨ addr = MemoryMap.interruptEnable))

namespace Machine

variable [Bus σ]

/-- The same processor on the same bytes, but for IF and IE. -/
structure SameProgram (m₁ m₂ : Machine ε σ) : Prop where
  cpu : m₁.cpu = m₂.cpu
  read8 : ∀ addr, ¬ IsInterruptRegister addr → Bus.read8 m₁.bus addr = Bus.read8 m₂.bus addr

/-- Two attempts that both have no outcome, or have outcomes with the same result and alike
machines. -/
def SameOutcome {α : Type} : Option (Machine ε σ × α) → Option (Machine ε σ × α) → Prop :=
  Option.Rel fun o₁ o₂ => SameProgram o₁.1 o₂.1 ∧ o₁.2 = o₂.2

variable {m₁ m₂ : Machine ε σ}

/-- Jumps that depend on PC only, reports and new counts of cycles set neither apart. -/
lemma SameProgram.jump (h : m₁.SameProgram m₂) (next : UInt16 → UInt16) :
    (m₁.jump (next m₁.cpu.regs.pc)).SameProgram (m₂.jump (next m₂.cpu.regs.pc)) :=
  ⟨congrArg (fun cpu : Cpu ε => { cpu with regs := { cpu.regs with pc := next cpu.regs.pc } })
    h.cpu, h.read8⟩

lemma SameProgram.report (h : m₁.SameProgram m₂) (level : LogLevel) (text₁ text₂ : String) :
    (m₁.report level text₁).SameProgram (m₂.report level text₂) := ⟨h.cpu, h.read8⟩

lemma SameProgram.restartClock (h : m₁.SameProgram m₂) :
    m₁.restartClock.SameProgram m₂.restartClock :=
  ⟨congrArg (fun cpu : Cpu ε => { cpu with clock := 0 }) h.cpu, h.read8⟩

/-- Alike calls report the same cycles. -/
lemma SameOutcome.withCycles {o₁ o₂ : Option (Machine ε σ × Except Fault Unit)}
    (h : SameOutcome o₁ o₂) : SameOutcome (o₁.map withCycles) (o₂.map withCycles) := by
  refine h.map ?_
  rintro ⟨a₁, result⟩ ⟨a₂, result₂⟩ - - ⟨hsame, rfl⟩
  exact ⟨hsame, by rw [Machine.withCycles, Machine.withCycles, hsame.cpu]⟩

/-- Two machines with the same program, interrupts masked and the handlers of the library. -/
structure MaskedAlike (m₁ m₂ : Machine ε σ) : Prop where
  same : m₁.SameProgram m₂
  masked : m₁.cpu.ime = false
  library : m₁.cpu.tables.LibraryOnly

/-! ### Disturbances of IF and IE -/

/-- What is done to IF or IE between two steps. -/
inductive Disturbance where
  /-- A peripheral requests an interrupt. -/
  | request (source : Interrupt)
  /-- IF is written. -/
  | setRequests (value : UInt8)
  /-- IE is written. -/
  | setEnables (value : UInt8)

/-- The address space after a disturbance. -/
def Disturbance.apply (bus : σ) : Disturbance → σ
  | request source => source.request bus
  | setRequests value => Bus.write8 bus MemoryMap.interruptRequest value
  | setEnables value => Bus.write8 bus MemoryMap.interruptEnable value

/-- The machine after some disturbances, made in order. -/
def disturb (m : Machine ε σ) (disturbances : List Disturbance) : Machine ε σ :=
  { m with bus := disturbances.foldl Disturbance.apply m.bus }

section Local

variable [LocalBus σ]

/-- A disturbance changes no byte but IF and IE. -/
lemma Disturbance.read8_apply (bus : σ) (disturbance : Disturbance) {addr : UInt16}
    (h : ¬ IsInterruptRegister addr) :
    Bus.read8 (disturbance.apply bus) addr = Bus.read8 bus addr := by
  have hrequest : addr ≠ MemoryMap.interruptRequest := fun heq => h (Or.inl heq)
  have henable : addr ≠ MemoryMap.interruptEnable := fun heq => h (Or.inr heq)
  cases disturbance with
  | request source => exact LocalBus.read8_write8_of_ne bus _ hrequest
  | setRequests value => exact LocalBus.read8_write8_of_ne bus _ hrequest
  | setEnables value => exact LocalBus.read8_write8_of_ne bus _ henable

/-- Disturbances change no byte but IF and IE. -/
lemma read8_disturb (m : Machine ε σ) (disturbances : List Disturbance) {addr : UInt16}
    (h : ¬ IsInterruptRegister addr) :
    Bus.read8 (m.disturb disturbances).bus addr = Bus.read8 m.bus addr := by
  rw [disturb]
  dsimp only
  generalize m.bus = bus
  induction disturbances generalizing bus with
  | nil => rfl
  | cons disturbance disturbances ih => rw [List.foldl_cons, ih, disturbance.read8_apply bus h]

/-- Different disturbances leave the program of both the same. -/
lemma SameProgram.disturb (h : m₁.SameProgram m₂) (first second : List Disturbance) :
    (m₁.disturb first).SameProgram (m₂.disturb second) := by
  refine ⟨h.cpu, fun addr haddr => ?_⟩
  rw [read8_disturb m₁ first haddr, read8_disturb m₂ second haddr, h.read8 addr haddr]

lemma MaskedAlike.disturb (h : m₁.MaskedAlike m₂) (first second : List Disturbance) :
    (m₁.disturb first).MaskedAlike (m₂.disturb second) :=
  ⟨h.same.disturb first second, h.masked, h.library⟩

end Local

variable [InstructionSet ε]

/-! ### One step of both -/

/-- A handler of the library does the same to both, unless it reads IF or IE. -/
lemma SameProgram.exec (h : m₁.SameProgram m₂) {handler : Handler ε} (hhandler : handler.IsLibrary)
    (hreads : ∀ addr ∈ handler.reads m₁, ¬ IsInterruptRegister addr) :
    (handler.exec m₁).1.SameProgram (handler.exec m₂).1 ∧
      (handler.exec m₁).2 = (handler.exec m₂).2 := by
  obtain ⟨cpu, bus₁, log₁⟩ := m₁
  obtain ⟨cpu₂, bus₂, log₂⟩ := m₂
  obtain ⟨rfl, hread⟩ := h
  cases handler with
  | custom instruction => exact hhandler.elim
  | nop => exact ⟨⟨rfl, hread⟩, rfl⟩
  | di => exact ⟨⟨rfl, hread⟩, rfl⟩
  | ei => exact ⟨⟨rfl, hread⟩, rfl⟩
  | reti =>
      have hlow := hread cpu.regs.sp (hreads _ (by simp [Handler.reads]))
      have hhigh := hread (cpu.regs.sp + 1) (hreads _ (by simp [Handler.reads]))
      have hpop : Bus.read16 bus₁ cpu.regs.sp = Bus.read16 bus₂ cpu.regs.sp := by
        rw [Bus.read16, Bus.read16, hlow, hhigh]
      refine ⟨⟨?_, hread⟩, rfl⟩
      simp only [Handler.exec, Handler.execReti, pop, hpop]
      rfl
  | prefixCB =>
      have hopcode := hread (cpu.regs.pc + 1) (hreads _ (by simp [Handler.reads]))
      refine ⟨⟨rfl, hread⟩, ?_⟩
      exact congrArg (fun opcode => Ending.extended opcode cpu.regs.pc) hopcode

/-- The call of a handler that completes the instruction does the same to both, unless the
handler reads IF or IE. -/
lemma SameProgram.call_of_isPlain (h : m₁.SameProgram m₂) (budget : ℕ) {handler : Handler ε}
    (hhandler : handler.IsLibrary) (hplain : handler.IsPlain)
    (hreads : ∀ addr ∈ handler.reads m₁, ¬ IsInterruptRegister addr) :
    (callsWithin budget handler m₁).map Call.handler =
        (callsWithin budget handler m₂).map Call.handler ∧
      SameOutcome (callWithin budget handler m₁) (callWithin budget handler m₂) := by
  rw [callsWithin_of_isPlain hplain, callsWithin_of_isPlain hplain,
    callWithin_of_isPlain hplain, callWithin_of_isPlain hplain]
  exact ⟨rfl, .some ⟨(h.exec hhandler hreads).1, rfl⟩⟩

/-- A call runs the same handlers on both and ends in the same way, unless one of them
reads IF or IE. -/
lemma SameProgram.call (h : m₁.SameProgram m₂) {budget : ℕ} {handler : Handler ε}
    (hlibrary : m₁.cpu.tables.LibraryOnly) (hhandler : handler.IsLibrary)
    (hreads : ∀ call ∈ callsWithin budget handler m₁,
      ∀ addr ∈ call.handler.reads call.machine, ¬ IsInterruptRegister addr) :
    (callsWithin budget handler m₁).map Call.handler =
        (callsWithin budget handler m₂).map Call.handler ∧
      SameOutcome (callWithin budget handler m₁) (callWithin budget handler m₂) := by
  induction budget generalizing handler m₁ m₂ with
  | zero =>
      rcases hhandler.isPlain_or with hplain | rfl
      · exact h.call_of_isPlain 0 hhandler hplain
          (hreads ⟨handler, m₁⟩ (List.mem_singleton_self _))
      · exact ⟨rfl, .none⟩
  | succ budget ih =>
      rcases hhandler.isPlain_or with hplain | rfl
      · exact h.call_of_isPlain (budget + 1) hhandler hplain
          (hreads ⟨handler, m₁⟩ List.mem_cons_self)
      · have hnext := h.jump fun pc => pc + 1 + 1
        have hpc : m₁.cpu.regs.pc = m₂.cpu.regs.pc := by rw [h.cpu]
        have hopcode := h.read8 (m₁.cpu.regs.pc + 1)
          (hreads ⟨.prefixCB, m₁⟩ List.mem_cons_self _ (List.mem_singleton_self _))
        cases hslot : m₁.cpu.tables.extended? (Bus.read8 m₁.bus (m₁.cpu.regs.pc + 1)) with
        | none =>
            have hslot₂ := hslot
            rw [hopcode, h.cpu] at hslot₂
            rw [callsWithin_prefixCB_of_none _ hslot, callsWithin_prefixCB_of_none _ hslot₂,
              callWithin_prefixCB_of_none _ hslot, callWithin_prefixCB_of_none _ hslot₂]
            refine ⟨rfl, .some ⟨hnext.report _ _ _, ?_⟩⟩
            rw [hopcode, hpc]
        | some found =>
            have hslot₂ := hslot
            rw [hopcode, h.cpu] at hslot₂
            rw [callsWithin_prefixCB_of_some _ hslot] at hreads
            obtain ⟨hcalls, houtcome⟩ := ih hnext hlibrary (hlibrary.extended hslot)
              (List.forall_mem_cons.mp hreads).2
            rw [callsWithin_prefixCB_of_some _ hslot, callsWithin_prefixCB_of_some _ hslot₂,
              callWithin_prefixCB_of_some _ hslot, callWithin_prefixCB_of_some _ hslot₂]
            exact ⟨congrArg (Handler.prefixCB :: ·) hcalls, houtcome⟩

/-- A step with interrupts masked runs the same handlers on both and ends in the same way,
unless it reads IF or IE. -/
lemma SameProgram.step (h : m₁.SameProgram m₂) (hlibrary : m₁.cpu.tables.LibraryOnly)
    (hmasked : m₁.cpu.ime = false)
    (hreads : ∀ addr ∈ m₁.stepReads, ¬ IsInterruptRegister addr) :
    m₁.handlersRun = m₂.handlersRun ∧ SameOutcome m₁.step m₂.step := by
  have hmasked₂ : m₂.cpu.ime = false := h.cpu ▸ hmasked
  obtain ⟨hfetch, hcalls⟩ := List.forall_mem_cons.mp hreads
  have hopcode := h.read8 _ hfetch
  have hpc : m₁.cpu.regs.pc = m₂.cpu.regs.pc := by rw [h.cpu]
  rw [Machine.step, Machine.step, stepWithin_of_not_pending (pendingInterrupt?_of_masked hmasked),
    stepWithin_of_not_pending (pendingInterrupt?_of_masked hmasked₂), handlersRun, handlersRun]
  rw [calls] at hcalls ⊢
  rw [calls, ← hpc, ← hopcode, ← h.cpu]
  cases hslot : m₁.cpu.tables.primary? (Bus.read8 m₁.bus m₁.cpu.regs.pc) with
  | none => exact ⟨rfl, .some ⟨h.restartClock.report _ _ _, rfl⟩⟩
  | some handler =>
      rw [hslot] at hcalls
      obtain ⟨hrun, houtcome⟩ := h.restartClock.call hlibrary (hlibrary.primary hslot)
        (fun call hcall addr haddr => hcalls addr (List.mem_flatMap.mpr ⟨call, hcall, haddr⟩))
      exact ⟨hrun, houtcome.withCycles⟩

/-! ### Two runs -/

/-- The machine before step `k` of a run in which `disturbances k` are made just before it,
if the steps before it all end.  A step that fails does not end the run. -/
def beforeStep (disturbances : ℕ → List Disturbance) (m : Machine ε σ) :
    ℕ → Option (Machine ε σ)
  | 0 => some (m.disturb (disturbances 0))
  | k + 1 =>
    (beforeStep disturbances m k).bind fun before =>
      before.step.map fun outcome => outcome.1.disturb (disturbances (k + 1))

/-- No step before step `n` of a run executes EI or RETI, and none up to that step fetches
an opcode from IF or IE or takes a byte of a return address from there. -/
structure StaysMasked (disturbances : ℕ → List Disturbance) (m : Machine ε σ) (n : ℕ) : Prop where
  masked : ∀ k < n, ∀ before, m.beforeStep disturbances k = some before →
    .ei ∉ before.handlersRun ∧ .reti ∉ before.handlersRun
  reads : ∀ k ≤ n, ∀ before, m.beforeStep disturbances k = some before →
    ∀ addr ∈ before.stepReads, ¬ IsInterruptRegister addr

/-- Two machines about to make steps that cannot be told apart: neither takes an interrupt,
both run the same handlers and end with the same result and the same processor, or neither
ends.  Neither writes: the address space is the same afterwards, even one that records what
is written to it. -/
structure SameStep (m₁ m₂ : Machine ε σ) : Prop where
  cpu : m₁.cpu = m₂.cpu
  idle : m₁.pendingInterrupt? = none ∧ m₂.pendingInterrupt? = none
  handlers : m₁.handlersRun = m₂.handlersRun
  outcome : Option.Rel (fun o₁ o₂ => o₁.1.cpu = o₂.1.cpu ∧ o₁.2 = o₂.2 ∧
    o₁.1.bus = m₁.bus ∧ o₂.1.bus = m₂.bus) m₁.step m₂.step

/-- Alike machines make the same step, unless it reads IF or IE. -/
lemma MaskedAlike.sameStep (h : m₁.MaskedAlike m₂)
    (hreads : ∀ addr ∈ m₁.stepReads, ¬ IsInterruptRegister addr) : m₁.SameStep m₂ := by
  have hmasked₂ : m₂.cpu.ime = false := h.same.cpu ▸ h.masked
  have hlibrary₂ : m₂.cpu.tables.LibraryOnly := h.same.cpu ▸ h.library
  have hidle₁ := pendingInterrupt?_of_masked h.masked
  have hidle₂ := pendingInterrupt?_of_masked hmasked₂
  obtain ⟨hhandlers, houtcome⟩ := h.same.step h.library h.masked hreads
  refine ⟨h.same.cpu, ⟨hidle₁, hidle₂⟩, hhandlers, ?_⟩
  refine houtcome.imp fun o₁ o₂ hstep₁ hstep₂ halike => ?_
  exact ⟨halike.1.cpu, halike.2, (keeps_bus_of_step h.library hidle₁ hstep₁).1,
    (keeps_bus_of_step hlibrary₂ hidle₂ hstep₂).1⟩

section Disturbed

variable [LocalBus σ] {disturbances₁ disturbances₂ : ℕ → List Disturbance}

/-- Alike machines are alike after a step that executes neither EI nor RETI, and after
disturbances behind it. -/
lemma MaskedAlike.next (h : m₁.MaskedAlike m₂)
    (hreads : ∀ addr ∈ m₁.stepReads, ¬ IsInterruptRegister addr)
    (hei : .ei ∉ m₁.handlersRun) (hreti : .reti ∉ m₁.handlersRun)
    (first second : List Disturbance) :
    Option.Rel MaskedAlike (m₁.step.map fun outcome => outcome.1.disturb first)
      (m₂.step.map fun outcome => outcome.1.disturb second) := by
  refine (h.same.step h.library h.masked hreads).2.map fun o₁ o₂ hstep₁ _ halike => ?_
  have hmasked := masked_of_step h.library h.masked hstep₁ hei hreti
  have htables := (keeps_bus_of_step h.library (pendingInterrupt?_of_masked h.masked) hstep₁).2
  have hlibrary : o₁.1.cpu.tables.LibraryOnly := htables ▸ h.library
  exact MaskedAlike.disturb ⟨halike.1, hmasked, hlibrary⟩ first second

/-- Up to the step that admits interrupts, runs of alike machines come to alike machines. -/
lemma MaskedAlike.beforeStep (h : m₁.MaskedAlike m₂) {n : ℕ}
    (hstays : m₁.StaysMasked disturbances₁ n) {k : ℕ} (hk : k ≤ n) :
    Option.Rel MaskedAlike (m₁.beforeStep disturbances₁ k) (m₂.beforeStep disturbances₂ k) := by
  induction k with
  | zero => exact .some (h.disturb _ _)
  | succ k ih =>
      refine (ih (Nat.le_of_succ_le hk)).bind fun before₁ before₂ hbefore₁ _ halike => ?_
      obtain ⟨hei, hreti⟩ := hstays.masked k hk before₁ hbefore₁
      exact halike.next (hstays.reads k (Nat.le_of_succ_le hk) before₁ hbefore₁) hei hreti _ _

/-- **Requests are invisible while interrupts are masked.**  Let two runs start with the
same processor, which holds only handlers of the library and has interrupts masked, and
with bytes that differ in IF and IE at most, and let IF and IE be disturbed in each run
before every step in any way.  If no step of the first run reads IF or IE, then up to and
including the first step that executes EI or RETI both runs make the same steps: none is a
dispatch, none writes, and the results and the processor agree before and after each. -/
theorem beforeStep_sameStep_of_masked (hcpu : m₁.cpu = m₂.cpu)
    (hbytes : ∀ addr, ¬ IsInterruptRegister addr →
      Bus.read8 m₁.bus addr = Bus.read8 m₂.bus addr)
    (hmasked : m₁.cpu.ime = false) (hlibrary : m₁.cpu.tables.LibraryOnly) {n : ℕ}
    (hstays : m₁.StaysMasked disturbances₁ n) {k : ℕ} (hk : k ≤ n) :
    Option.Rel SameStep (m₁.beforeStep disturbances₁ k) (m₂.beforeStep disturbances₂ k) := by
  have h : m₁.MaskedAlike m₂ := ⟨⟨hcpu, hbytes⟩, hmasked, hlibrary⟩
  exact (h.beforeStep hstays hk).imp fun before₁ _ hbefore₁ _ halike =>
    halike.sameStep (hstays.reads k hk before₁ hbefore₁)

end Disturbed

/-- NOP and EI with a run beside it in which the timer is requested and IE set all the time. -/
theorem beforeStep_sameStep_of_masked_ei :
    let m : Machine Empty (Recorded FlatMemory) :=
      ⟨⟨.cleared, false, 0, .interruptControl⟩, ⟨Bus.write8 FlatMemory.zero 1 0xFB, #[]⟩, #[]⟩
    let other := { m with bus := Bus.write8 m.bus MemoryMap.interruptRequest 0xFF }
    let disturbances (k : ℕ) : List Disturbance :=
      [.request .timer, .setEnables 0x1F, .setRequests (UInt8.ofNat k)]
    (∀ k ≤ 1, Option.Rel SameStep (m.beforeStep (fun _ => []) k)
      (other.beforeStep disturbances k)) ∧
    ∃ before after, m.beforeStep (fun _ => []) 1 = some before ∧
      before.step = some (after, .ok 4) ∧ after.cpu.ime = true := by
  intro m other disturbances
  have hmem : ∀ addr, Bus.read8 m.bus addr = if addr = 1 then 0xFB else 0 := by
    intro addr
    simp only [m, Recorded.read8_eq, FlatMemory.read8_write8, FlatMemory.read8_zero]
  have hnop : m.cpu.tables.primary? (Bus.read8 m.bus m.cpu.regs.pc) = some .nop := by
    rw [hmem]
    rfl
  let next := Handler.execNop m.restartClock
  have hei : next.cpu.tables.primary? (Bus.read8 next.bus next.cpu.regs.pc) = some .ei := by
    have hopcode : Bus.read8 next.bus next.cpu.regs.pc = 0xFB := hmem 1
    rw [hopcode]
    rfl
  have hfirst : m.beforeStep (fun _ => []) 0 = some m := rfl
  have hsecond : m.beforeStep (fun _ => []) 1 = some next := by
    have hstep := step_of_isPlain (show Handler.nop.IsPlain from trivial)
      (pendingInterrupt?_of_masked rfl) hnop
    rw [beforeStep, hfirst, Option.bind_some, hstep]
    rfl
  have hlast : next.step = some (Handler.execEi next.restartClock, .ok 4) :=
    step_of_isPlain (show Handler.ei.IsPlain from trivial) (pendingInterrupt?_of_masked rfl) hei
  have hstays : m.StaysMasked (fun _ => []) 1 := by
    refine ⟨fun k hk before hbefore => ?_, fun k hk before hbefore => ?_⟩
    · obtain rfl := Nat.lt_one_iff.mp hk
      obtain rfl : before = m := Option.some.inj (hbefore.symm.trans hfirst)
      rw [handlersRun_of_isPlain (show Handler.nop.IsPlain from trivial) hnop]
      exact ⟨by simp, by simp⟩
    · rcases Nat.le_one_iff_eq_zero_or_eq_one.mp hk with rfl | rfl
      · obtain rfl : before = m := Option.some.inj (hbefore.symm.trans hfirst)
        rw [stepReads_of_isPlain (show Handler.nop.IsPlain from trivial) hnop]
        exact List.forall_mem_singleton.mpr (by decide)
      · obtain rfl : before = next := Option.some.inj (hbefore.symm.trans hsecond)
        rw [stepReads_of_isPlain (show Handler.ei.IsPlain from trivial) hei]
        exact List.forall_mem_singleton.mpr (by decide)
  have hcpu : m.cpu = other.cpu := rfl
  have hbytes : ∀ addr, ¬ IsInterruptRegister addr →
      Bus.read8 m.bus addr = Bus.read8 other.bus addr := fun addr haddr =>
    (LocalBus.read8_write8_of_ne m.bus 0xFF fun heq => haddr (Or.inl heq)).symm
  refine ⟨fun k hk => ?_, next, _, hsecond, hlast, rfl⟩
  exact beforeStep_sameStep_of_masked hcpu hbytes rfl (OpcodeTables.libraryOnly_of_isEmpty _)
    hstays hk

end Machine

end DmgCore
