/-!
Indices: words of `64` bits that number the pixels of a picture.

A sum or a product that does not fit into a word is no index.

* `Index.add?`, `Index.mul?`: sum and product of two indices, if they fit;
* `Index.ofPlace?`: the index of a pixel, from its place in the picture;
* `Index.ofPlace?_eq_some_iff`: this is the exact number of the pixel, and
  `Index.ofPlace?_eq_none_iff`: there is none just where that number is too large.
-/

namespace DmgCore

namespace Index

/-- The sum of two indices, if it fits into a word. -/
def add? (i j : UInt64) : Option UInt64 :=
  if i.toNat + j.toNat < UInt64.size then some (i + j) else none

/-- The product of two indices, if it fits into a word. -/
def mul? (i j : UInt64) : Option UInt64 :=
  if i.toNat * j.toNat < UInt64.size then some (i * j) else none

/-- The index of the pixel in a column and a row, where each row has `width` pixels. -/
def ofPlace? (x y width : UInt64) : Option UInt64 := do add? (← mul? y width) x

theorem add?_eq_some_iff {i j k : UInt64} : add? i j = some k ↔ i.toNat + j.toNat = k.toNat := by
  have hk := k.toNat_lt_size
  rw [add?, Option.ite_none_right_eq_some, Option.some_inj, ← UInt64.toNat_inj, UInt64.toNat_add]
  rw [UInt64.size] at hk ⊢
  omega

theorem mul?_eq_some_iff {i j k : UInt64} : mul? i j = some k ↔ i.toNat * j.toNat = k.toNat := by
  have hk := k.toNat_lt_size
  rw [mul?, Option.ite_none_right_eq_some, Option.some_inj, ← UInt64.toNat_inj, UInt64.toNat_mul]
  generalize i.toNat * j.toNat = product
  rw [UInt64.size] at hk ⊢
  omega

/-- The index of a pixel is its exact number. -/
theorem ofPlace?_eq_some_iff {x y width k : UInt64} :
    ofPlace? x y width = some k ↔ y.toNat * width.toNat + x.toNat = k.toNat := by
  rw [ofPlace?, Option.bind_eq_bind, Option.bind_eq_some_iff]
  constructor
  · rintro ⟨first, hfirst, hsum⟩
    rw [mul?_eq_some_iff.mp hfirst, add?_eq_some_iff.mp hsum]
  · intro hplace
    -- the number of the first pixel of the row is no greater, so it fits as well
    have hfits : y.toNat * width.toNat < UInt64.size := by
      have hk := k.toNat_lt_size
      omega
    have hfirst := UInt64.toNat_ofNat_of_lt' hfits
    exact ⟨_, mul?_eq_some_iff.mpr hfirst.symm, add?_eq_some_iff.mpr (by rw [hfirst, hplace])⟩

/-- A pixel has no index just where its number is too large. -/
theorem ofPlace?_eq_none_iff {x y width : UInt64} :
    ofPlace? x y width = none ↔ UInt64.size ≤ y.toNat * width.toNat + x.toNat := by
  rw [← Option.not_isSome_iff_eq_none, Option.isSome_iff_exists, ← Nat.not_lt, not_congr]
  constructor
  · rintro ⟨k, hk⟩
    rw [ofPlace?_eq_some_iff.mp hk]
    exact k.toNat_lt_size
  · intro hfits
    exact ⟨_, ofPlace?_eq_some_iff.mpr (UInt64.toNat_ofNat_of_lt' hfits).symm⟩

end Index

end DmgCore
