import Mathlib.Data.Finset.Card
import DmgCore.Cpu.OpcodeTables
import DmgCore.Proofs.LastPut

/-!
Opcode tables after any number of registrations.

* `Registration`, `OpcodeTables.register`: a call that registers a handler in one of the two
  tables, with the tables afterwards and the answer;
* `OpcodeTables.registerAll`: such calls one after the other, refused ones among them;
* `OpcodeTables.lookUp?_register`: a call changes the slot that it is for and no other;
* `OpcodeTables.lastPut_lookUp?`: a slot holds what was registered for it last;
* `OpcodeTables.countP_isSome_eq_card`: counting filled slots is counting opcodes;
* `OpcodeTables.registerAll_holds_last`: the statements together.
-/

namespace DmgCore

variable {ε : Type}

/-- One of the two tables. -/
inductive TableName where
  | primary
  | extended
  deriving DecidableEq

/-- A call that registers a handler for an opcode. -/
structure Registration (ε : Type) where
  table : TableName
  opcode : UInt8
  handler : Handler ε

namespace Registration

/-- The call is for the primary slot `0xCB`. -/
def IsReserved (call : Registration ε) : Prop :=
  call.table = .primary ∧ call.opcode = prefixOpcode

/-- What the call is to put into the slot of an opcode. -/
def put? (table : TableName) (opcode : UInt8) (call : Registration ε) :
    Option (Option (Handler ε)) :=
  if call.table = table ∧ call.opcode = opcode then some (some call.handler) else none

/-- What is put into a slot is the handler of a call for it. -/
lemma put?_eq_some_iff {table : TableName} {opcode : UInt8} {call : Registration ε}
    {new : Option (Handler ε)} :
    call.put? table opcode = some new ↔
      (call.table = table ∧ call.opcode = opcode) ∧ some call.handler = new := by
  rw [put?, Option.ite_none_right_eq_some, Option.some_inj]

end Registration

namespace OpcodeTables

/-- The handler in a slot of one of the tables. -/
def lookUp? (tables : OpcodeTables ε) : TableName → UInt8 → Option (Handler ε)
  | .primary => tables.primary?
  | .extended => tables.extended?

/-- How many slots of one of the tables are filled. -/
def count (tables : OpcodeTables ε) : TableName → ℕ
  | .primary => tables.primaryCount
  | .extended => tables.extendedCount

/-! ### One call -/

/-- The tables after a call, and its answer. A call that is refused leaves them as they were. -/
def register (tables : OpcodeTables ε) (call : Registration ε) :
    OpcodeTables ε × Except Fault Unit :=
  match call.table with
  | .primary =>
    match tables.insertPrimary call.opcode call.handler with
    | .ok next => (next, .ok ())
    | .error fault => (tables, .error fault)
  | .extended => (tables.insertExtended call.opcode call.handler, .ok ())

lemma register_of_isReserved (tables : OpcodeTables ε) {call : Registration ε}
    (h : call.IsReserved) : tables.register call = (tables, .error .reservedSlot) := by
  rw [register, h.1]
  dsimp only
  rw [insertPrimary, dif_pos h.2]

lemma register_primary (tables : OpcodeTables ε) {call : Registration ε}
    (htable : call.table = .primary) (h : call.opcode ≠ prefixOpcode) :
    tables.register call = (tables.setPrimary call.opcode call.handler h, .ok ()) := by
  rw [register, htable]
  dsimp only
  rw [insertPrimary, dif_neg h]

lemma register_extended (tables : OpcodeTables ε) {call : Registration ε}
    (htable : call.table = .extended) :
    tables.register call = (tables.insertExtended call.opcode call.handler, .ok ()) := by
  rw [register, htable]

/-- The only call that is refused is the one for the reserved slot. -/
lemma register_refused_iff (tables : OpcodeTables ε) (call : Registration ε) :
    (∃ fault, (tables.register call).2 = .error fault) ↔ call.IsReserved := by
  constructor
  · rintro ⟨fault, hfault⟩
    by_contra hfree
    cases htable : call.table with
    | primary =>
        rw [register_primary tables htable fun h => hfree ⟨htable, h⟩] at hfault
        cases hfault
    | extended =>
        rw [register_extended tables htable] at hfault
        cases hfault
  · intro h
    exact ⟨.reservedSlot, by rw [register_of_isReserved tables h]⟩

/-- A call changes the slot that it is for, unless that is reserved, and no other. -/
lemma lookUp?_register {table : TableName} {opcode : UInt8}
    (h : ¬ (table = .primary ∧ opcode = prefixOpcode)) (tables : OpcodeTables ε)
    (call : Registration ε) :
    (tables.register call).1.lookUp? table opcode =
      (call.put? table opcode).getD (tables.lookUp? table opcode) := by
  by_cases hslot : call.table = table ∧ call.opcode = opcode
  · obtain ⟨rfl, rfl⟩ := hslot
    rw [Registration.put?, if_pos ⟨rfl, rfl⟩, Option.getD_some]
    cases htable : call.table with
    | primary =>
        rw [register_primary tables htable fun hop => h ⟨htable, hop⟩, lookUp?,
          primary?_setPrimary, if_pos rfl]
    | extended =>
        rw [register_extended tables htable, lookUp?, extended?_insertExtended, if_pos rfl]
  · rw [Registration.put?, if_neg hslot, Option.getD_none]
    cases htable : call.table with
    | primary =>
        by_cases hreserved : call.opcode = prefixOpcode
        · rw [register_of_isReserved tables ⟨htable, hreserved⟩]
        · rw [register_primary tables htable hreserved]
          cases table with
          | primary =>
              rw [lookUp?, primary?_setPrimary, if_neg fun heq => hslot ⟨htable, heq.symm⟩, lookUp?]
          | extended => rfl
    | extended =>
        rw [register_extended tables htable]
        cases table with
        | primary => rfl
        | extended =>
            rw [lookUp?, extended?_insertExtended, if_neg fun heq => hslot ⟨htable, heq.symm⟩,
              lookUp?]

/-! ### Any number of calls -/

/-- The tables after calls, made one after the other whether refused or not. -/
def registerAll (tables : OpcodeTables ε) (calls : List (Registration ε)) : OpcodeTables ε :=
  calls.foldl (fun tables call => (tables.register call).1) tables

/-- A slot holds what was put there last, unless it is reserved. -/
lemma lastPut_lookUp? {table : TableName} {opcode : UInt8}
    (h : ¬ (table = .primary ∧ opcode = prefixOpcode)) (tables : OpcodeTables ε)
    (calls : List (Registration ε)) :
    LastPut (Registration.put? table opcode) calls (tables.lookUp? table opcode)
      ((tables.registerAll calls).lookUp? table opcode) :=
  lastPut_foldl (·.lookUp? table opcode) (lookUp?_register h) calls tables

/-- A slot that is filled was filled at first or by a call that was accepted. -/
lemma isSome_lookUp?_iff (tables : OpcodeTables ε) (calls : List (Registration ε))
    (table : TableName) (opcode : UInt8) :
    ((tables.registerAll calls).lookUp? table opcode).isSome = true ↔
      (tables.lookUp? table opcode).isSome = true ∨
        ∃ call ∈ calls, call.table = table ∧ call.opcode = opcode ∧ ¬ call.IsReserved := by
  by_cases hreserved : table = .primary ∧ opcode = prefixOpcode
  · -- the reserved slot is filled from the beginning
    obtain ⟨rfl, rfl⟩ := hreserved
    rw [lookUp?, lookUp?, primary?_prefixOpcode, primary?_prefixOpcode]
    exact ⟨Or.inl, fun _ => rfl⟩
  · have hlast := lastPut_lookUp? hreserved tables calls
    rcases exists_last_put (Registration.put? table opcode) calls with
      hnone | ⟨before, last, later, new, hsplit, hput, hlater⟩
    · rw [hlast.kept hnone, or_iff_left]
      rintro ⟨call, hmem, htable, hopcode, -⟩
      exact absurd (hnone call hmem) (by rw [Registration.put?, if_pos ⟨htable, hopcode⟩]; simp)
    · obtain ⟨⟨rfl, rfl⟩, rfl⟩ := Registration.put?_eq_some_iff.mp hput
      rw [hlast.put before last later _ hsplit hput hlater]
      exact ⟨fun _ => Or.inr ⟨last, by simp [hsplit], rfl, rfl, hreserved⟩, fun _ => rfl⟩

/-! ### Counting -/

/-- All opcodes, in ascending order. -/
def allOpcodes : List UInt8 := (List.range 256).map UInt8.ofNat

lemma toNat_ofNat_of_mem_range {i : ℕ} (hi : i ∈ List.range 256) : (UInt8.ofNat i).toNat = i := by
  have hlt := List.mem_range.mp hi
  rw [UInt8.toNat_ofNat']
  omega

lemma nodup_allOpcodes : allOpcodes.Nodup := by
  refine List.Nodup.map_on (fun i hi j hj heq => ?_) List.nodup_range
  rw [← toNat_ofNat_of_mem_range hi, heq, toNat_ofNat_of_mem_range hj]

lemma mem_allOpcodes (opcode : UInt8) : opcode ∈ allOpcodes :=
  List.mem_map.mpr ⟨opcode.toNat, List.mem_range.mpr opcode.toNat_lt, UInt8.ofNat_toNat⟩

/-- The slots of a table are those of all opcodes. -/
lemma toList_eq_map_allOpcodes {α : Type} (slots : Vector α 256) :
    slots.toList = allOpcodes.map fun opcode => slots.get (slot opcode) := by
  refine List.ext_getElem? fun i => ?_
  by_cases hi : i < 256
  · have hslot : slot (UInt8.ofNat i) = ⟨i, hi⟩ :=
      Fin.ext (toNat_ofNat_of_mem_range (List.mem_range.mpr hi))
    have hget : slots.get ⟨i, hi⟩ = slots[i] := rfl
    simp [allOpcodes, hi, hslot, hget]
  · simp [allOpcodes, hi]

/-- The opcodes whose slot is filled. -/
def filledOpcodes {α : Type} (slots : Vector (Option α) 256) : Finset UInt8 :=
  (allOpcodes.filter fun opcode => (slots.get (slot opcode)).isSome).toFinset

lemma mem_filledOpcodes {α : Type} (slots : Vector (Option α) 256) (opcode : UInt8) :
    opcode ∈ filledOpcodes slots ↔ (slots.get (slot opcode)).isSome = true := by
  rw [filledOpcodes, List.mem_toFinset, List.mem_filter]
  exact and_iff_right (mem_allOpcodes opcode)

/-- The number of filled slots is the number of opcodes that have one. -/
lemma countP_isSome_eq_card {α : Type} (slots : Vector (Option α) 256) :
    slots.countP (·.isSome) = (filledOpcodes slots).card := by
  calc slots.countP (·.isSome)
      = slots.toList.countP (·.isSome) := (Vector.countP_toList ..).symm
    _ = allOpcodes.countP fun opcode => (slots.get (slot opcode)).isSome := by
        rw [toList_eq_map_allOpcodes, List.countP_map]
        rfl
    _ = (filledOpcodes slots).card := by
        rw [filledOpcodes, List.toFinset_card_of_nodup (nodup_allOpcodes.filter _),
          List.countP_eq_length_filter]

/-- A table counts the opcodes for which a look-up finds a handler. -/
lemma exists_count_eq_card (tables : OpcodeTables ε) (table : TableName) :
    ∃ opcodes : Finset UInt8, tables.count table = opcodes.card ∧
      ∀ opcode, opcode ∈ opcodes ↔ (tables.lookUp? table opcode).isSome = true := by
  cases table with
  | primary => exact ⟨_, countP_isSome_eq_card tables.primary, mem_filledOpcodes tables.primary⟩
  | extended => exact ⟨_, countP_isSome_eq_card tables.extended, mem_filledOpcodes tables.extended⟩

/-! ### The statements together -/

/-- **Tables hold what was registered last.**  Let any calls be made to tables, whether these
were empty at first, or had the instructions that interrupts need, or any others.  The primary
slot `0xCB` is then as ever.  Of the calls that may come next, those for this slot and no others
are refused, and change nothing.  Every other slot of either table holds the handler of the
latest call for it, or what it held at first if there was none.  A table counts each opcode once
for which it has a handler, and these are the opcodes that had one at first and those of the
calls that were accepted. -/
theorem registerAll_holds_last (start : OpcodeTables ε) (calls : List (Registration ε)) :
    (∀ call : Registration ε,
      ((∃ fault, ((start.registerAll calls).register call).2 = .error fault) ↔
        call.table = .primary ∧ call.opcode = prefixOpcode) ∧
      (call.table = .primary ∧ call.opcode = prefixOpcode →
        (start.registerAll calls).register call =
          (start.registerAll calls, .error .reservedSlot))) ∧
    (start.registerAll calls).lookUp? .primary prefixOpcode = some .prefixCB ∧
    (∀ table opcode, ¬ (table = .primary ∧ opcode = prefixOpcode) →
      LastPut (Registration.put? table opcode) calls (start.lookUp? table opcode)
        ((start.registerAll calls).lookUp? table opcode)) ∧
    ∀ table, ∃ opcodes : Finset UInt8,
      (start.registerAll calls).count table = opcodes.card ∧ ∀ opcode,
        (opcode ∈ opcodes ↔
          ((start.registerAll calls).lookUp? table opcode).isSome = true) ∧
        (opcode ∈ opcodes ↔ (start.lookUp? table opcode).isSome = true ∨
          ∃ call ∈ calls, call.table = table ∧ call.opcode = opcode ∧ ¬ call.IsReserved) := by
  refine ⟨fun call => ⟨register_refused_iff _ call, fun h => register_of_isReserved _ h⟩,
    primary?_prefixOpcode _, fun table opcode h => lastPut_lookUp? h start calls, fun table => ?_⟩
  obtain ⟨opcodes, hcount, hmem⟩ := exists_count_eq_card (start.registerAll calls) table
  exact ⟨opcodes, hcount, fun opcode =>
    ⟨hmem opcode, (hmem opcode).trans (isSome_lookUp?_iff start calls table opcode)⟩⟩

/-- NOP is replaced twice, and the reserved slot is asked for in between: the count stays at
five, and the slot of the same opcode in the extended table is another one. -/
theorem registerAll_holds_last_replaced :
    let calls : List (Registration Empty) :=
      [⟨.primary, 0x00, .di⟩, ⟨.primary, 0xCB, .nop⟩, ⟨.extended, 0x00, .ei⟩,
        ⟨.primary, 0x00, .reti⟩]
    let tables := interruptControl.registerAll calls
    tables.lookUp? .primary 0x00 = some .reti ∧ tables.lookUp? .extended 0x00 = some .ei ∧
      tables.lookUp? .primary 0xF3 = some .di ∧ tables.lookUp? .primary 0xCB = some .prefixCB ∧
      tables.count .primary = 5 ∧ tables.count .extended = 1 := by
  intro calls tables
  obtain ⟨-, hreserved, hlast, hcounts⟩ := registerAll_holds_last interruptControl calls
  obtain ⟨primary, hprimary, hmem⟩ := hcounts .primary
  obtain ⟨extended, hextended, hmem'⟩ := hcounts .extended
  have hopcodes : primary = {0x00, 0xD9, 0xF3, 0xFB, 0xCB} := by
    ext opcode
    rw [(hmem opcode).2, lookUp?, primary?_interruptControl]
    simp only [calls, Registration.IsReserved, prefixOpcode, Finset.mem_insert,
      Finset.mem_singleton]
    grind
  have hopcodes' : extended = {0x00} := by
    ext opcode
    rw [(hmem' opcode).2, lookUp?, extended?_interruptControl]
    simp [calls, Registration.IsReserved, eq_comm]
  refine ⟨?_, ?_, ?_, hreserved, ?_, ?_⟩
  · exact (hlast .primary 0x00 (by decide)).put (calls.take 3) ⟨.primary, 0x00, .reti⟩ [] _ rfl
      rfl nofun
  · exact (hlast .extended 0x00 (by decide)).put (calls.take 2) ⟨.extended, 0x00, .ei⟩
      (calls.drop 3) _ rfl rfl (by simp [calls, Registration.put?])
  · exact (hlast .primary 0xF3 (by decide)).kept (by simp [calls, Registration.put?])
  · rw [hprimary, hopcodes]
    rfl
  · rw [hextended, hopcodes']
    rfl

end OpcodeTables

end DmgCore
