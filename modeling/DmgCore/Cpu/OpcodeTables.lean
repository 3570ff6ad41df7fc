import DmgCore.Cpu.Fault

/-!
The two opcode tables.

A table has a slot for each of the `256` opcodes, which may be empty. The
processor knows the handlers that interrupts need and the way from the primary
into the extended table; every other instruction is the embedding system's, and
`ε` is its type of instructions.

* `OpcodeTables.insertPrimary`, `OpcodeTables.insertExtended`: fill a slot;
* `OpcodeTables.primary?_prefixOpcode`: the primary slot `0xCB` always leads to
  the extended table, because `insertPrimary` refuses it.
-/

namespace DmgCore

/-- What a slot of an opcode table can hold. -/
inductive Handler (ε : Type) where
  /-- Does nothing. -/
  | nop
  /-- Masks interrupts. -/
  | di
  /-- Admits interrupts. -/
  | ei
  /-- Returns and admits interrupts. -/
  | reti
  /-- Continues in the extended table with the next byte. -/
  | prefixCB
  /-- An instruction of the embedding system. -/
  | custom (instruction : ε)
  deriving DecidableEq, Repr

/-- The opcode that leads to the extended table. -/
def prefixOpcode : UInt8 := 0xCB

/-- The slot of an opcode in a table. -/
def slot (opcode : UInt8) : Fin 256 := ⟨opcode.toNat, opcode.toNat_lt⟩

/-- Opcodes with the same slot are equal. -/
theorem slot_inj {opcode other : UInt8} (h : (slot opcode).val = (slot other).val) :
    opcode = other :=
  UInt8.toNat_inj.mp h

/-- The primary and the extended table. -/
structure OpcodeTables (ε : Type) where
  primary : Vector (Option (Handler ε)) 256
  extended : Vector (Option (Handler ε)) 256
  /-- The way into the extended table cannot be taken away. -/
  primary_prefixOpcode : primary[slot prefixOpcode] = some .prefixCB

namespace OpcodeTables

variable {ε : Type}

/-- The handler in a slot of the primary table. -/
def primary? (tables : OpcodeTables ε) (opcode : UInt8) : Option (Handler ε) :=
  tables.primary[slot opcode]

/-- The handler in a slot of the extended table. -/
def extended? (tables : OpcodeTables ε) (opcode : UInt8) : Option (Handler ε) :=
  tables.extended[slot opcode]

/-- The primary slot `0xCB` leads to the extended table, whatever was registered. -/
theorem primary?_prefixOpcode (tables : OpcodeTables ε) :
    tables.primary? prefixOpcode = some .prefixCB :=
  tables.primary_prefixOpcode

/-! ### Filling slots -/

/-- Puts a handler into a slot of the primary table other than `0xCB`. -/
def setPrimary (tables : OpcodeTables ε) (opcode : UInt8) (handler : Handler ε)
    (h : opcode ≠ prefixOpcode) : OpcodeTables ε :=
  { tables with
    primary := tables.primary.set (slot opcode) (some handler)
    primary_prefixOpcode := by
      have hne : (slot opcode).val ≠ (slot prefixOpcode).val := fun e => h (slot_inj e)
      rw [Fin.getElem_fin, Vector.getElem_set_ne _ _ hne]
      exact tables.primary_prefixOpcode }

/-- Puts a handler into a slot of the primary table; `0xCB` is refused. -/
def insertPrimary (tables : OpcodeTables ε) (opcode : UInt8) (handler : Handler ε) :
    Except Fault (OpcodeTables ε) :=
  if h : opcode = prefixOpcode then .error .reservedSlot
  else .ok (tables.setPrimary opcode handler h)

/-- Puts a handler into a slot of the extended table. -/
def insertExtended (tables : OpcodeTables ε) (opcode : UInt8) (handler : Handler ε) :
    OpcodeTables ε :=
  { tables with extended := tables.extended.set (slot opcode) (some handler) }

/-! ### Tables to start from -/

/-- Both tables empty but for the way into the extended one. -/
def empty : OpcodeTables ε where
  primary := (Vector.replicate 256 none).set (slot prefixOpcode) (some .prefixCB)
  extended := Vector.replicate 256 none
  primary_prefixOpcode := by simp

/-- Tables that nobody has filled are the empty ones. -/
instance : Inhabited (OpcodeTables ε) := ⟨empty⟩

/-- The instructions that interrupts need: NOP, DI, EI and RETI. -/
def interruptControl : OpcodeTables ε :=
  (((empty.setPrimary 0x00 .nop (by decide)).setPrimary 0xF3 .di (by decide)).setPrimary
    0xFB .ei (by decide)).setPrimary 0xD9 .reti (by decide)

/-! ### What a look-up finds -/

/-- A slot of the primary table holds what was last put there. -/
theorem primary?_setPrimary (tables : OpcodeTables ε) (opcode other : UInt8)
    (handler : Handler ε) (h : opcode ≠ prefixOpcode) :
    (tables.setPrimary opcode handler h).primary? other =
      if other = opcode then some handler else tables.primary? other := by
  rw [primary?, setPrimary]
  by_cases heq : other = opcode
  · simp [heq]
  · have hne : (slot opcode).val ≠ (slot other).val := fun e => heq (slot_inj e).symm
    rw [if_neg heq, Fin.getElem_fin, Vector.getElem_set_ne _ _ hne]
    rfl

@[simp] theorem extended?_setPrimary (tables : OpcodeTables ε) (opcode other : UInt8)
    (handler : Handler ε) (h : opcode ≠ prefixOpcode) :
    (tables.setPrimary opcode handler h).extended? other = tables.extended? other := rfl

/-- A slot of the extended table holds what was last put there. -/
theorem extended?_insertExtended (tables : OpcodeTables ε) (opcode other : UInt8)
    (handler : Handler ε) :
    (tables.insertExtended opcode handler).extended? other =
      if other = opcode then some handler else tables.extended? other := by
  rw [extended?, insertExtended]
  by_cases heq : other = opcode
  · simp [heq]
  · have hne : (slot opcode).val ≠ (slot other).val := fun e => heq (slot_inj e).symm
    rw [if_neg heq, Fin.getElem_fin, Vector.getElem_set_ne _ _ hne]
    rfl

@[simp] theorem primary?_insertExtended (tables : OpcodeTables ε) (opcode other : UInt8)
    (handler : Handler ε) :
    (tables.insertExtended opcode handler).primary? other = tables.primary? other := rfl

/-- Nothing is registered in the empty tables but the way into the extended one. -/
theorem primary?_empty (opcode : UInt8) :
    (empty : OpcodeTables ε).primary? opcode =
      if opcode = prefixOpcode then some .prefixCB else none := by
  rw [primary?, empty]
  by_cases heq : opcode = prefixOpcode
  · simp [heq]
  · have hne : (slot prefixOpcode).val ≠ (slot opcode).val := fun e => heq (slot_inj e).symm
    rw [if_neg heq, Fin.getElem_fin, Vector.getElem_set_ne _ _ hne, Vector.getElem_replicate]

@[simp] theorem extended?_empty (opcode : UInt8) :
    (empty : OpcodeTables ε).extended? opcode = none := by
  rw [extended?, empty, Fin.getElem_fin, Vector.getElem_replicate]

theorem primary?_interruptControl (opcode : UInt8) :
    (interruptControl : OpcodeTables ε).primary? opcode =
      if opcode = 0xD9 then some .reti
      else if opcode = 0xFB then some .ei
      else if opcode = 0xF3 then some .di
      else if opcode = 0x00 then some .nop
      else if opcode = prefixOpcode then some .prefixCB else none := by
  rw [interruptControl, primary?_setPrimary, primary?_setPrimary, primary?_setPrimary,
    primary?_setPrimary, primary?_empty]

@[simp] theorem extended?_interruptControl (opcode : UInt8) :
    (interruptControl : OpcodeTables ε).extended? opcode = none := by
  rw [interruptControl, extended?_setPrimary, extended?_setPrimary, extended?_setPrimary,
    extended?_setPrimary, extended?_empty]

/-! ### What is registered -/

/-- The opcodes of the primary table that have a handler, in ascending order. -/
def primaryOpcodes (tables : OpcodeTables ε) : List UInt8 :=
  ((List.range 256).map UInt8.ofNat).filter fun opcode => (tables.primary? opcode).isSome

/-- The opcodes of the extended table that have a handler, in ascending order. -/
def extendedOpcodes (tables : OpcodeTables ε) : List UInt8 :=
  ((List.range 256).map UInt8.ofNat).filter fun opcode => (tables.extended? opcode).isSome

/-- How many slots of the primary table are filled. -/
def primaryCount (tables : OpcodeTables ε) : Nat := tables.primary.countP (·.isSome)

/-- How many slots of the extended table are filled. -/
def extendedCount (tables : OpcodeTables ε) : Nat := tables.extended.countP (·.isSome)

/-- A one-line description. -/
def describe (tables : OpcodeTables ε) : String :=
  s!"OpcodeTables \x7b primary: {tables.primaryCount}, extended: {tables.extendedCount} \x7d"

end OpcodeTables

end DmgCore
