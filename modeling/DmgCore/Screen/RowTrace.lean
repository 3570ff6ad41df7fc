import DmgCore.Screen.RowSink

/-!
A row sink that remembers the numbers of all rows it was given.
-/

namespace DmgCore

/-- A row sink and the numbers of the rows written to it, oldest first. -/
structure RowTrace (τ : Type) where
  sink : τ
  rows : Array UInt64 := #[]

namespace RowTrace

variable {τ : Type} [RowSink τ]

instance : RowSink (RowTrace τ) where
  writeRow trace y row :=
    let written := RowSink.writeRow trace.sink y row
    { value := { sink := written.value, rows := trace.rows.push y }, records := written.records }

end RowTrace

end DmgCore
