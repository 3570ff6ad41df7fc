import Mathlib.Tactic.Common

/-!
Lists put together from groups of one size.

A row of pixels is laid out tile by tile and a picture row by row, each time with
`List.flatMap` over a range of groups that are all equally long.
`getElem?_flatMap_range` finds an element of such a list: the number of its group
is the quotient of its place by the size of a group, and its place in the group
is the remainder. `getElem?_flatMap_const` does so for groups made of the items of
any list, and `getElem?_flatMap_tiles` finds a pixel of a picture that is laid out
tile by tile.
-/

namespace DmgCore

variable {α β : Type}

/-- Groups of one size make a list as long as their number times that size. -/
lemma length_flatMap_const {size : ℕ} (f : β → List α) (hsize : ∀ item, (f item).length = size)
    (items : List β) : (items.flatMap f).length = items.length * size := by
  simp [List.length_flatMap, hsize, List.map_const']

/-- The element at a place of a list of groups, given by group and place in the group. -/
lemma getElem?_flatMap_const {size : ℕ} (f : β → List α) (hsize : ∀ item, (f item).length = size)
    {items : List β} {item : β} {i k : ℕ} (h : items[i]? = some item) (hk : k < size) :
    (items.flatMap f)[size * i + k]? = (f item)[k]? := by
  induction items generalizing i with
  | nil => exact absurd h nofun
  | cons first rest ih =>
      rw [List.flatMap_cons]
      cases i with
      | zero =>
          obtain rfl := Option.some.inj h
          rw [List.getElem?_append_left (by rw [hsize]; omega), Nat.mul_zero, Nat.zero_add]
      | succ i =>
          have hplace : size * (i + 1) + k - size = size * i + k := by
            rw [Nat.mul_succ]
            omega
          rw [List.getElem?_append_right (by rw [hsize, Nat.mul_succ]; omega), hsize, hplace]
          exact ih h

/-- Groups with numbers make a list as long as their number times their size. -/
lemma length_flatMap_range {size : ℕ} (f : ℕ → List α) (n : ℕ)
    (hsize : ∀ i, (f i).length = size) : ((List.range n).flatMap f).length = n * size := by
  rw [length_flatMap_const f hsize, List.length_range]

/-- The element at a place of a list of groups: found in the group whose number is the
quotient, at the remainder. -/
lemma getElem?_flatMap_range {size : ℕ} (f : ℕ → List α) (n : ℕ)
    (hsize : ∀ i, (f i).length = size) {i : ℕ} (hi : i < n * size) :
    ((List.range n).flatMap f)[i]? = (f (i / size))[i % size]? := by
  have hgroup : i / size < n := Nat.div_lt_of_lt_mul (by rw [Nat.mul_comm]; exact hi)
  have hplace : i % size < size := Nat.mod_lt _ (Nat.pos_of_ne_zero fun h => by simp [h] at hi)
  calc ((List.range n).flatMap f)[i]?
      = ((List.range n).flatMap f)[size * (i / size) + i % size]? := by rw [Nat.div_add_mod]
    _ = (f (i / size))[i % size]? :=
        getElem?_flatMap_const f hsize (List.getElem?_range hgroup) hplace

/-- A pixel of a picture made of square tiles, row after row: found in the tile in whose
column and row the quotients of the coordinates lie, at the remainders. Here `f` gives a
line of a tile from the row of the tile, the number of the line and the column of the
tile. -/
lemma getElem?_flatMap_tiles {size : ℕ} (f : ℕ → ℕ → ℕ → List α) (rows columns : ℕ)
    (hsize : ∀ row line column, (f row line column).length = size) {x y : ℕ}
    (hx : x < columns * size) (hy : y < rows * size) :
    ((List.range rows).flatMap fun row => (List.range size).flatMap fun line =>
        (List.range columns).flatMap (f row line))[y * (columns * size) + x]? =
      (f (y / size) (y % size) (x / size))[x % size]? := by
  set width := columns * size with hwidth
  set i := y * width + x with hi
  have hline : ∀ row line, ((List.range columns).flatMap (f row line)).length = width :=
    fun row line => length_flatMap_range _ columns (hsize row line)
  have hrow : ∀ row, ((List.range size).flatMap fun line =>
      (List.range columns).flatMap (f row line)).length = size * width :=
    fun row => length_flatMap_range _ size (hline row)
  have hdiv : i / width = y := by
    rw [hi, Nat.mul_comm, Nat.mul_add_div (by omega), Nat.div_eq_of_lt hx, Nat.add_zero]
  have hmod : i % width = x := by
    rw [hi, Nat.mul_comm, Nat.mul_add_mod, Nat.mod_eq_of_lt hx]
  have hlast : i < rows * (size * width) := by
    have hstep : (y + 1) * width ≤ rows * size * width := Nat.mul_le_mul_right width hy
    rw [Nat.succ_mul] at hstep
    rw [← Nat.mul_assoc]
    omega
  have hplace : i % (size * width) < size * width := by
    refine Nat.mod_lt _ (Nat.pos_of_ne_zero fun h => ?_)
    rw [h] at hlast
    omega
  -- first the row of tiles, then the line in it, then the tile in the line
  rw [getElem?_flatMap_range _ rows hrow hlast, getElem?_flatMap_range _ size (hline _) hplace,
    Nat.mod_mul_left_mod, Nat.mod_mul_left_div_self, Nat.mul_comm size width,
    ← Nat.div_div_eq_div_mul, hdiv, hmod, getElem?_flatMap_range _ columns (hsize _ _) hx]

end DmgCore
