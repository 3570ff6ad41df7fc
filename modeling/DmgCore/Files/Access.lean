/-!
Reading and writing whole files.

A program that works on files is written over `FileAccess` and so runs on a disk
as well as on a `FileStore`, a value that stands for everything stored.
-/

namespace DmgCore

/-- The effect of reading and writing whole files. A failure comes with its reason. -/
class FileAccess (m : Type → Type) where
  /-- All bytes of the file with a path. -/
  read : String → m (Except String (List UInt8))
  /-- Replaces all bytes of the file with a path, or makes the file. -/
  write : String → List UInt8 → m (Except String Unit)

/-- A value that stands for a collection of files. A write that fails gives no new
collection: it changes nothing. -/
class FileStore (φ : Type) where
  /-- All bytes of the file with a path. -/
  read : φ → String → Except String (List UInt8)
  /-- The collection in which the file with a path has these bytes. -/
  write : φ → String → List UInt8 → Except String φ

/-- Working on a store is passing it along. -/
instance {φ : Type} [FileStore φ] : FileAccess (StateM φ) where
  read path := do return FileStore.read (← get) path
  write path bytes := do
    match FileStore.write (← get) path bytes with
    | .ok store =>
      set store
      return .ok ()
    | .error reason => return .error reason

end DmgCore
