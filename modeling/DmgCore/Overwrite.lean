/-!
Writing a run of values over a part of an array.

* `overwrite dest start values`: the array with the values in place of what stood
  from `start` on;
* `size_overwrite`: its size is that of the old array;
* `getElem?_overwrite`: a place holds the value written there, and else what it
  held before;
* `toList_overwrite_zero`: values written to the front, and behind them the rest.
-/

namespace DmgCore

variable {α : Type}

/-- Writes values to successive places; those beyond the end of the array are left out. -/
def overwrite (dest : Array α) (start : Nat) : List α → Array α
  | [] => dest
  | value :: rest => overwrite (dest.setIfInBounds start value) (start + 1) rest

@[simp] theorem size_overwrite (dest : Array α) (start : Nat) (values : List α) :
    (overwrite dest start values).size = dest.size := by
  induction values generalizing dest start with
  | nil => rfl
  | cons value rest ih => simp [overwrite, ih]

/-- What is found at a place: a value written to it, or what was there before. -/
theorem getElem?_overwrite (dest : Array α) (start : Nat) (values : List α) (i : Nat)
    (h : i < dest.size) :
    (overwrite dest start values)[i]? =
      if start ≤ i ∧ i < start + values.length then values[i - start]? else dest[i]? := by
  induction values generalizing dest start with
  | nil =>
    have hnone : ¬ (start ≤ i ∧ i < start + ([] : List α).length) := by
      rw [List.length_nil]
      omega
    rw [if_neg hnone, overwrite]
  | cons value rest ih =>
    rw [overwrite, ih _ _ (by simpa using h), List.length_cons]
    by_cases hi : i = start
    · have hlater : ¬ (start + 1 ≤ i ∧ i < start + 1 + rest.length) := by omega
      rw [if_neg hlater, if_pos (by omega)]
      subst hi
      simp [h]
    · rw [Array.getElem?_setIfInBounds_ne (Ne.symm hi)]
      by_cases hin : start + 1 ≤ i ∧ i < start + 1 + rest.length
      · have hoff : i - start = i - (start + 1) + 1 := by omega
        rw [if_pos hin, if_pos (by omega), hoff, List.getElem?_cons_succ]
      · rw [if_neg hin, if_neg (by omega)]

/-- Values that fit stand at the front, and behind them is the rest of the array. -/
theorem toList_overwrite_zero (dest : Array α) (values : List α)
    (h : values.length ≤ dest.size) :
    (overwrite dest 0 values).toList = values ++ dest.toList.drop values.length := by
  refine List.ext_getElem? fun i => ?_
  by_cases hi : i < dest.size
  · rw [Array.getElem?_toList, getElem?_overwrite _ _ _ _ hi]
    by_cases hin : i < values.length
    · rw [if_pos (by omega), List.getElem?_append_left hin, Nat.sub_zero]
    · rw [if_neg (by omega), List.getElem?_append_right (by omega), List.getElem?_drop,
        Nat.add_sub_cancel' (by omega), Array.getElem?_toList]
  · have hdest : dest.toList.length = dest.size := Array.length_toList
    have hleft : (overwrite dest 0 values).toList.length ≤ i := by
      rw [Array.length_toList, size_overwrite]
      omega
    have hright : (values ++ dest.toList.drop values.length).length ≤ i := by
      rw [List.length_append, List.length_drop]
      omega
    rw [List.getElem?_eq_none hleft, List.getElem?_eq_none hright]

end DmgCore
