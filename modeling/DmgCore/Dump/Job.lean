import DmgCore.Dump.View
import DmgCore.Files.Access

/-!
The dump tool: reads a memory snapshot, makes a picture of it and writes that as
raw RGB24.

* `DumpJob.run`: the whole job, with the records sent on the way. The snapshot is
  read and checked and the picture made before the output is touched, so a job that
  fails earlier leaves all files as they were.
-/

namespace DmgCore

/-- What to dump, and from where to where. -/
structure DumpJob where
  /-- The path of the snapshot. -/
  image : String
  /-- The path of the picture. -/
  output : String
  view : View := View.default
  deriving DecidableEq, Repr

/-- What a job wrote. -/
structure DumpSummary where
  width : Nat
  height : Nat
  bytes : Nat
  deriving DecidableEq, Repr

/-- What is told of a picture that was written. -/
def DumpSummary.ofRendering (picture : Rendering) : DumpSummary :=
  ⟨picture.width, picture.height, picture.bytes.size⟩

/-- Why a job failed. -/
inductive DumpFault where
  /-- The snapshot could not be read. -/
  | unreadable (path reason : String)
  /-- The snapshot is not a memory. -/
  | invalidImage (path : String) (fault : MemoryFault)
  /-- The picture could not be made. -/
  | notRendered (fault : RenderFault)
  /-- The picture could not be written. -/
  | unwritable (path reason : String)
  deriving DecidableEq, Repr

namespace DumpFault

/-- What is told of a fault, from what was being done to what went wrong then. Nothing is
told of a defect. -/
def chain : DumpFault → List String
  | unreadable path reason => [s!"failed to read memory image '{path}'", reason]
  | invalidImage path fault => [s!"invalid memory image '{path}'", fault.message]
  | notRendered fault => fault.message?.toList
  | unwritable path reason => [s!"failed to write '{path}'", reason]

/-- The text of a fault, if it is one that is reported. -/
def message? (fault : DumpFault) : Option String :=
  if fault.chain.isEmpty then none else some (": ".intercalate fault.chain)

end DumpFault

namespace DumpJob

/-- The picture that a job makes of the bytes of a snapshot, with the records sent
while it was made. -/
def picture (job : DumpJob) (image : List UInt8) : Except DumpFault (Logged Rendering) := do
  let memory ← (FlatMemory.ofImage image).mapError (DumpFault.invalidImage job.image)
  (job.view.render memory).mapError DumpFault.notRendered

/-- The record of a picture that was written. -/
def record (job : DumpJob) (picture : Rendering) : LogRecord where
  level := .info
  text := s!"Wrote {job.view.title} view ({picture.width}x{picture.height} rgb24) to " ++
    s!"'{job.output}'"

/-- Reads the snapshot, makes the picture and writes it. -/
def run {m : Type → Type} [Monad m] [FileAccess m] (job : DumpJob) :
    m (Logged (Except DumpFault DumpSummary)) := do
  match ← FileAccess.read job.image with
  | .error reason => return pure (.error (.unreadable job.image reason))
  | .ok image =>
    match job.picture image with
    | .error fault => return pure (.error fault)
    | .ok picture =>
      match ← FileAccess.write job.output picture.value.bytes.toList with
      | .error reason => return ⟨.error (.unwritable job.output reason), picture.records⟩
      | .ok () =>
        return ⟨.ok (.ofRendering picture.value), picture.records ++ [job.record picture.value]⟩

end DumpJob

end DmgCore
