import Mathlib.Data.String.Basic
import DmgCore.Files.Tree

/-!
What may be relied on where whole files are read and written.

* `LawfulFileStore`: a path leads to a file; reading gives all its bytes or fails, and writing
  replaces all its bytes and changes no other file, or fails;
* `FileStore.run_read`, `FileStore.run_write`: what programs that work on files do to it;
* `FileTree.resolve_of_isFileName`: the file that a mere name leads to;
* the instance for `FileTree`: the tree of folders and files in memory is such a store.
-/

namespace DmgCore

/-- A collection of files in which reading and writing work on whole files. Several paths may
lead to one file. A write that fails has no new collection, so it changes nothing. -/
class LawfulFileStore (φ : Type) [FileStore φ] where
  /-- What files are told apart by. -/
  File : Type
  /-- The file that a path leads to, whether it is there already or not. -/
  locate? : φ → String → Option File
  /-- All bytes of a file, if there is one. -/
  contents? : φ → File → Option (List UInt8)
  /-- What is read is all that the file holds. -/
  read_ok : ∀ {store : φ} {path : String} {bytes : List UInt8},
    FileStore.read store path = .ok bytes →
      ∃ file, locate? store path = some file ∧ contents? store file = some bytes
  /-- What is written is all that the file then holds, and every other file is as before. -/
  write_ok : ∀ {store next : φ} {path : String} {bytes : List UInt8},
    FileStore.write store path bytes = .ok next →
      ∃ file, locate? store path = some file ∧ contents? next file = some bytes ∧
        ∀ other, other ≠ file → contents? next other = contents? store other

namespace FileStore

variable {φ : Type} [FileStore φ]

lemma run_read (path : String) (store : φ) :
    (FileAccess.read path : StateM φ (Except String (List UInt8))).run store =
      (FileStore.read store path, store) := rfl

/-- A write that fails leaves the collection as it was. -/
lemma run_write (path : String) (bytes : List UInt8) (store : φ) :
    (FileAccess.write path bytes : StateM φ (Except String Unit)).run store =
      match FileStore.write store path bytes with
      | .ok next => (.ok (), next)
      | .error reason => (.error reason, store) := by
  change StateT.run (match FileStore.write store path bytes with
    | .ok _ => _
    | .error _ => _) store = _
  cases FileStore.write store path bytes <;> rfl

end FileStore

namespace FileTree

lemma contents?_put_self (tree : FileTree) (place : Location) (bytes : List UInt8) :
    (tree.put place bytes).contents? place = some bytes :=
  List.lookup_cons_self

/-- A file is found among the others just as well when one of those is taken out. -/
lemma lookup_filter_ne {place other : Location} (h : other ≠ place)
    (files : List (Location × List UInt8)) :
    (files.filter (·.1 != place)).lookup other = files.lookup other := by
  induction files with
  | nil => rfl
  | cons file files ih =>
      by_cases hplace : file.1 = place
      · have hother : (other == file.1) = false := beq_false_of_ne (hplace ▸ h)
        rw [List.filter_cons_of_neg (by simp [hplace]), ih, List.lookup_cons, hother]
      · rw [List.filter_cons_of_pos (by simp [hplace]), List.lookup_cons, List.lookup_cons, ih]

lemma contents?_put_of_ne {place other : Location} (h : other ≠ place) (tree : FileTree)
    (bytes : List UInt8) : (tree.put place bytes).contents? other = tree.contents? other := by
  have hother : (other == place) = false := beq_false_of_ne h
  rw [contents?, put, List.lookup_cons, hother]
  exact lookup_filter_ne h tree.files

/-- What may be the name of a file. -/
structure IsFileName (name : String) : Prop where
  not_special : name ∉ ["", ".", ".."]
  plain : ∀ c ∈ name.toList, c ∉ ['/', '\x00']
  short : name.utf8ByteSize ≤ nameLimit

/-- A path that is a mere name leads to the file of that name in the working folder. -/
lemma resolve_of_isFileName {tree : FileTree} {name : String} (h : IsFileName name)
    (hfolder : tree.isFolder tree.workingFolder = true) :
    tree.resolve name = .ok (tree.workingFolder ++ [name]) := by
  obtain ⟨hne, hhere, hup⟩ : name ≠ "" ∧ name ≠ "." ∧ name ≠ ".." := by
    simpa using h.not_special
  have hplain : ∀ c ∈ name.toList, c ≠ '/' ∧ c ≠ '\x00' := by
    simpa using h.plain
  have hlimit : ¬ nameLimit < name.utf8ByteSize := Nat.not_lt.mpr h.short
  have hpath : ¬ pathLimit < name.utf8ByteSize := by
    have hlimits : nameLimit ≤ pathLimit := by decide
    exact Nat.not_lt.mpr (Nat.le_trans h.short hlimits)
  have hempty : ¬ name.isEmpty = true := fun hempty => hne (String.isEmpty_iff.mp hempty)
  have hnul : ¬ name.contains (· == '\x00') = true := by
    rw [String.contains_bool_eq, List.any_eq_true]
    rintro ⟨c, hc, hnul⟩
    exact (hplain c hc).2 (eq_of_beq hnul)
  have hrelative : ¬ name.startsWith "/" = true := by
    rw [String.startsWith_string_iff]
    intro hslash
    exact (hplain '/' (hslash.subset (by decide))).1 rfl
  have hparts : name.splitToList (· == '/') = [name] := by
    rw [String.splitToList_of_valid,
      List.splitOnP_eq_singleton fun c hc => beq_false_of_ne (hplain c hc).1, List.map_singleton,
      String.ofList_toList]
  rw [resolve, if_neg hempty, String.any, if_neg hnul, if_neg hpath, if_neg hrelative, hparts,
    walk, hfolder]
  simp [hne, hhere, hup, hlimit, walk]

/-- Reading looks for a file where the path leads. -/
lemma read_of_resolve {tree : FileTree} {path : String} {place : Location}
    (h : tree.resolve path = .ok place) :
    tree.read path =
      if tree.isFolder place then .error .isAFolder
      else match tree.contents? place with
        | some bytes => .ok bytes
        | none => .error .notFound := by
  rw [read, h]
  rfl

/-- Writing puts a file where the path leads. -/
lemma write_of_resolve {tree : FileTree} {path : String} {place : Location}
    (h : tree.resolve path = .ok place) (bytes : List UInt8) :
    tree.write path bytes =
      if tree.isFolder place then .error .isAFolder else .ok (tree.put place bytes) := by
  rw [write, h]
  rfl

/-- What was read is what the file at the end of the path holds. -/
lemma exists_contents?_of_read {tree : FileTree} {path : String} {bytes : List UInt8}
    (h : tree.read path = .ok bytes) :
    ∃ place, tree.resolve path = .ok place ∧ tree.contents? place = some bytes := by
  cases hplace : tree.resolve path with
  | error fault =>
      rw [read, hplace] at h
      exact absurd h nofun
  | ok place =>
      refine ⟨place, rfl, ?_⟩
      rw [read_of_resolve hplace] at h
      split at h
      · exact absurd h nofun
      · split at h
        next found hfound => rw [hfound, Except.ok.inj h]
        next => exact absurd h nofun

/-- What was written was put at the end of the path. -/
lemma exists_put_of_write {tree next : FileTree} {path : String} {bytes : List UInt8}
    (h : tree.write path bytes = .ok next) :
    ∃ place, tree.resolve path = .ok place ∧ tree.put place bytes = next := by
  cases hplace : tree.resolve path with
  | error fault =>
      rw [write, hplace] at h
      exact absurd h nofun
  | ok place =>
      refine ⟨place, rfl, ?_⟩
      rw [write_of_resolve hplace] at h
      split at h
      · exact absurd h nofun
      · exact Except.ok.inj h

end FileTree

/-- Success is success however the faults are told. -/
lemma Except.mapError_eq_ok_iff {ε ε' α : Type} {f : ε → ε'} {result : Except ε α} {value : α} :
    result.mapError f = .ok value ↔ result = .ok value := by
  cases result <;> simp [Except.mapError]

instance : LawfulFileStore FileTree where
  File := Location
  locate? tree path := (tree.resolve path).toOption
  contents? := FileTree.contents?
  read_ok := by
    intro tree path bytes h
    obtain ⟨place, hplace, hbytes⟩ :=
      FileTree.exists_contents?_of_read (Except.mapError_eq_ok_iff.mp h)
    exact ⟨place, by rw [hplace]; rfl, hbytes⟩
  write_ok := by
    intro tree next path bytes h
    obtain ⟨place, hplace, rfl⟩ := FileTree.exists_put_of_write (Except.mapError_eq_ok_iff.mp h)
    exact ⟨place, by rw [hplace]; rfl, tree.contents?_put_self place bytes,
      fun other hne => tree.contents?_put_of_ne hne bytes⟩

end DmgCore
