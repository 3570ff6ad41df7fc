import Mathlib.Tactic.Common
import DmgCore.Interrupt
import DmgCore.Proofs.ByteBits

/-!
The bits of IF and IE.

* `Interrupt.testBit_acknowledge`, `Interrupt.testBit_request`: clearing and setting
  the bit of one source leaves all other bits of the byte, the three without a
  source among them;
* `Interrupt.mostUrgent?_eq_some_iff`: the most urgent source is the one with the
  least number among those whose bit is set;
* `Interrupt.pending`: the sources whose bits are set, by number, and what clearing
  the bit of the first of them leaves.
-/

namespace DmgCore

namespace Interrupt

/-! ### Single bits -/

lemma toNat_mask (source : Interrupt) : source.mask.toNat = 1 <<< source.index := by
  cases source <;> rfl

/-- Clearing the bit of a source leaves the other bits. -/
lemma testBit_acknowledge (bits : UInt8) (source : Interrupt) (j : ℕ) :
    (bits &&& ~~~source.mask).toNat.testBit j =
      (bits.toNat.testBit j && decide (j ≠ source.index)) := by
  rw [Byte.testBit_and_not, toNat_mask, Nat.one_shiftLeft, Nat.testBit_two_pow]
  simp [eq_comm]

/-- Setting the bit of a source leaves the other bits. -/
lemma testBit_request (bits : UInt8) (source : Interrupt) (j : ℕ) :
    (bits ||| source.mask).toNat.testBit j =
      (bits.toNat.testBit j || decide (j = source.index)) := by
  rw [UInt8.toNat_or, Nat.testBit_or, toNat_mask, Nat.one_shiftLeft,
    Nat.testBit_two_pow]
  simp [eq_comm]

lemma isSet_and (source : Interrupt) (bits other : UInt8) :
    source.isSet (bits &&& other) = (source.isSet bits && source.isSet other) := by
  rw [isSet, UInt8.toNat_and, Nat.testBit_and]
  rfl

/-- Each of the five lowest bits belongs to a source. -/
lemma exists_index_eq {i : ℕ} (hi : i < 5) : ∃ source : Interrupt, source.index = i := by
  have h : ∀ i : Fin 5, ∃ source ∈ all, source.index = i.val := by decide
  obtain ⟨source, -, hindex⟩ := h ⟨i, hi⟩
  exact ⟨source, hindex⟩

/-- The bits of the sources are the five lowest. -/
lemma testBit_and_low (bits : UInt8) (j : ℕ) :
    (bits &&& 0x1F).toNat.testBit j = (bits.toNat.testBit j && decide (j < 5)) := by
  have h31 : (0x1F : UInt8).toNat = 2 ^ 5 - 1 := rfl
  rw [UInt8.toNat_and, Nat.testBit_and, h31, Nat.testBit_two_pow_sub_one]

/-! ### The sources whose bits are set -/

/-- The sources whose bits are set, by number. -/
def pending (bits : UInt8) : List Interrupt := all.filter (·.isSet bits)

lemma mem_pending {bits : UInt8} {source : Interrupt} :
    source ∈ pending bits ↔ source.isSet bits = true := by
  simp [pending, mem_all]

/-- The numbers of the sources whose bits are set are those of the five lowest bits set. -/
lemma exists_mem_pending_iff (bits : UInt8) (i : ℕ) :
    (∃ source ∈ pending bits, source.index = i) ↔ (bits &&& 0x1F).toNat.testBit i = true := by
  rw [testBit_and_low, Bool.and_eq_true, decide_eq_true_eq]
  constructor
  · rintro ⟨source, hsource, rfl⟩
    exact ⟨mem_pending.mp hsource, source.index_lt⟩
  · rintro ⟨hset, hlt⟩
    obtain ⟨source, rfl⟩ := exists_index_eq hlt
    exact ⟨source, mem_pending.mpr hset, rfl⟩

/-- No source is set just if none of the five lowest bits is. -/
lemma pending_eq_nil_iff (bits : UInt8) : pending bits = [] ↔ bits &&& 0x1F = 0 := by
  constructor
  · intro h
    by_contra hne
    obtain ⟨i, hi⟩ := Nat.exists_testBit_of_ne_zero fun e => hne (UInt8.toNat_inj.mp e)
    obtain ⟨source, hsource, -⟩ := (exists_mem_pending_iff bits i).mpr hi
    rw [h] at hsource
    exact List.not_mem_nil hsource
  · intro h
    refine List.eq_nil_iff_forall_not_mem.mpr fun source hsource => ?_
    have hset := (exists_mem_pending_iff bits source.index).mp ⟨source, hsource, rfl⟩
    rw [h] at hset
    simp at hset

/-- The sources whose bits are set come by number, each once. -/
lemma pairwise_pending (bits : UInt8) :
    (pending bits).Pairwise fun source other => source.index < other.index := by
  have h : all.Pairwise fun source other => source.index < other.index := by decide
  exact h.filter _

lemma mostUrgent?_eq_head? (bits : UInt8) : mostUrgent? bits = (pending bits).head? :=
  List.head?_filter.symm

/-- A source is the most urgent one just if its bit is set and no lower bit is. -/
lemma mostUrgent?_eq_some_iff (bits : UInt8) (source : Interrupt) :
    mostUrgent? bits = some source ↔
      source.isSet bits = true ∧
        ∀ other : Interrupt, other.index < source.index → other.isSet bits = false := by
  rw [mostUrgent?_eq_head?]
  have hsorted := pairwise_pending bits
  constructor
  · intro h
    obtain ⟨rest, hrest⟩ := List.head?_eq_some_iff.mp h
    rw [hrest, List.pairwise_cons] at hsorted
    refine ⟨mem_pending.mp (hrest ▸ List.mem_cons_self), fun other hlt => ?_⟩
    -- a set bit below the head's would make it a later member of the sorted list
    by_contra hset
    have hmem := mem_pending.mpr ((Bool.not_eq_false _).mp hset)
    rw [hrest] at hmem
    rcases List.mem_cons.mp hmem with rfl | hlater
    · exact Nat.lt_irrefl _ hlt
    · exact Nat.lt_asymm hlt (hsorted.1 other hlater)
  · rintro ⟨hset, hleast⟩
    have hmem := mem_pending.mpr hset
    cases hpending : pending bits with
    | nil => simp [hpending] at hmem
    | cons first rest =>
        rw [hpending] at hmem hsorted
        rcases List.mem_cons.mp hmem with rfl | hlater
        · rfl
        · have hfirst : first.isSet bits = true :=
            mem_pending.mp (hpending ▸ List.mem_cons_self)
          rw [hleast first ((List.pairwise_cons.mp hsorted).1 source hlater)] at hfirst
          exact absurd hfirst (by simp)

lemma mostUrgent?_eq_none_iff (bits : UInt8) : mostUrgent? bits = none ↔ bits &&& 0x1F = 0 := by
  rw [mostUrgent?_eq_head?, List.head?_eq_none_iff, pending_eq_nil_iff]

/-- Without its first member the list of the sources whose bits are set is that of a byte
in which just the bit of this member is not set any more. -/
lemma pending_eq_tail {bits bits' : UInt8} {first : Interrupt} {rest : List Interrupt}
    (h : pending bits = first :: rest)
    (hset : ∀ source, source.isSet bits' = (source.isSet bits && decide (source ≠ first))) :
    pending bits' = rest := by
  have hlater := (List.pairwise_cons.mp (h ▸ pairwise_pending bits)).1
  have hfilter : pending bits' = (pending bits).filter fun source => decide (source ≠ first) := by
    rw [pending, pending, List.filter_filter]
    exact List.filter_congr fun source _ => by rw [hset, Bool.and_comm]
  rw [hfilter, h, List.filter_cons_of_neg (by simp), List.filter_eq_self]
  intro source hsource
  have hlt := hlater source hsource
  exact decide_eq_true fun e => Nat.lt_irrefl _ (e ▸ hlt)

end Interrupt

end DmgCore
