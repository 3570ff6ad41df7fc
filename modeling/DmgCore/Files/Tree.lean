import DmgCore.Files.Access

/-!
A tree of folders and files held in memory.

* `FileTree.resolve`: where a path leads. A path is read from left to right, from
  the root if it begins with a slash and else from the working folder; empty parts
  and `.` stay in place, `..` goes up, and nothing can be entered but a folder.
* The `FileStore` instance: a file can be read where there is one, and written
  where there is no folder.
-/

namespace DmgCore

/-- The names on the way from the root to a place. -/
abbrev Location := List String

/-- Why a path does not lead to a file. -/
inductive FileFault where
  | notFound
  | notAFolder
  | isAFolder
  | nameTooLong
  | invalidName
  deriving DecidableEq, Repr

/-- The text of a fault, with the number systems give it. -/
def FileFault.message : FileFault → String
  | notFound => "No such file or directory (os error 2)"
  | notAFolder => "Not a directory (os error 20)"
  | isAFolder => "Is a directory (os error 21)"
  | nameTooLong => "File name too long (os error 36)"
  | invalidName => "file name contained an unexpected NUL byte"

/-- Folders and files by location. -/
structure FileTree where
  folders : List Location
  files : List (Location × List UInt8)
  workingFolder : Location

namespace FileTree

/-- Whether there is a folder at a location; the root is one. -/
def isFolder (tree : FileTree) (place : Location) : Bool :=
  place.isEmpty || tree.folders.contains place

/-- The bytes of the file at a location. -/
def contents? (tree : FileTree) (place : Location) : Option (List UInt8) :=
  tree.files.lookup place

/-- The tree with a file at a location. -/
def put (tree : FileTree) (place : Location) (bytes : List UInt8) : FileTree :=
  { tree with files := (place, bytes) :: tree.files.filter (·.1 != place) }

/-- The longest name, in bytes. -/
def nameLimit : Nat := 255

/-- The longest path, in bytes. -/
def pathLimit : Nat := 4095

/-- Follows the parts of a path from a location. -/
def walk (tree : FileTree) (place : Location) : List String → Except FileFault Location
  | [] => .ok place
  | part :: rest =>
    if !tree.isFolder place then
      .error (if (tree.contents? place).isSome then .notAFolder else .notFound)
    else if part == "" || part == "." then tree.walk place rest
    else if part == ".." then tree.walk place.dropLast rest
    else if nameLimit < part.utf8ByteSize then .error .nameTooLong
    else tree.walk (place ++ [part]) rest

/-- Where a path leads. -/
def resolve (tree : FileTree) (path : String) : Except FileFault Location :=
  if path.isEmpty then .error .notFound
  else if path.any (· == '\x00') then .error .invalidName
  else if pathLimit < path.utf8ByteSize then .error .nameTooLong
  else
    tree.walk (if path.startsWith "/" then [] else tree.workingFolder)
      (path.splitToList (· == '/'))

/-- All bytes of the file that a path leads to. -/
def read (tree : FileTree) (path : String) : Except FileFault (List UInt8) := do
  let place ← tree.resolve path
  if tree.isFolder place then throw .isAFolder
  match tree.contents? place with
  | some bytes => return bytes
  | none => throw .notFound

/-- The tree in which the file that a path leads to has the given bytes. -/
def write (tree : FileTree) (path : String) (bytes : List UInt8) : Except FileFault FileTree := do
  let place ← tree.resolve path
  if tree.isFolder place then throw .isAFolder
  return tree.put place bytes

instance : FileStore FileTree where
  read tree path := (tree.read path).mapError FileFault.message
  write tree path bytes := (tree.write path bytes).mapError FileFault.message

end FileTree

end DmgCore
