import Mathlib.Tactic.Common

/-!
Places that are written to over and over.

A place holds what was put into it last. Which of the writes put something there, and what,
differs from place to place: `put?` gives the value that a write puts into one place, and
`none` if it does not touch the place.

* `LastPut`: a value is what a list of writes leaves in a place;
* `exists_last_put`: there is a last write to the place, or none at all;
* `lastPut_foldl`: so it is in every system whose single writes are as `put?` says.
-/

namespace DmgCore

variable {ω α β : Type}

/-- The value in a place after a list of writes, made in order: the last one that was put
there, or the initial one if none was. -/
structure LastPut (put? : ω → Option α) (writes : List ω) (initial value : α) : Prop where
  put : ∀ before write later new, writes = before ++ write :: later → put? write = some new →
    (∀ other ∈ later, put? other = none) → value = new
  kept : (∀ write ∈ writes, put? write = none) → value = initial

/-- A place is not touched at all, or there is a write that puts something there last. -/
lemma exists_last_put (put? : ω → Option α) (writes : List ω) :
    (∀ write ∈ writes, put? write = none) ∨
      ∃ before write later new, writes = before ++ write :: later ∧ put? write = some new ∧
        ∀ other ∈ later, put? other = none := by
  induction writes with
  | nil => exact Or.inl (List.forall_mem_nil _)
  | cons first writes ih =>
      rcases ih with hnone | ⟨before, write, later, new, rfl, hput, hlater⟩
      · cases hfirst : put? first with
        | none => exact Or.inl (List.forall_mem_cons.mpr ⟨hfirst, hnone⟩)
        | some new => exact Or.inr ⟨[], first, writes, new, rfl, hfirst, hnone⟩
      · exact Or.inr ⟨first :: before, write, later, new, rfl, hput, hlater⟩

section Fold

variable {apply : β → ω → β} {put? : ω → Option α} (read : β → α)
  (h : ∀ state write, read (apply state write) = (put? write).getD (read state))

include h

/-- Writes that do not touch a place leave what is there. -/
lemma read_foldl_of_none {writes : List ω} (hnone : ∀ write ∈ writes, put? write = none)
    (state : β) : read (writes.foldl apply state) = read state := by
  induction writes generalizing state with
  | nil => rfl
  | cons write writes ih =>
      obtain ⟨hfirst, hrest⟩ := List.forall_mem_cons.mp hnone
      rw [List.foldl_cons, ih hrest, h, hfirst, Option.getD_none]

/-- Where one write is as `put?` says, a list of writes leaves what was put there last. -/
lemma lastPut_foldl (writes : List ω) (state : β) :
    LastPut put? writes (read state) (read (writes.foldl apply state)) := by
  refine ⟨?_, fun hnone => read_foldl_of_none read h hnone state⟩
  rintro before write later new rfl hput hlater
  rw [List.foldl_append, List.foldl_cons, read_foldl_of_none read h hlater, h, hput,
    Option.getD_some]

end Fold

end DmgCore
