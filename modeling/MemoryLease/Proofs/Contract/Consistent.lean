import Mathlib.Logic.Basic
import MemoryLease.Contract.Basic

/-!
# Consistent contracts

A contract without a flaw has no unknown bit, asks for strides wherever it asks for something that
strides are part of, and asks for one order at most.  The checks are made one after the other and
the first that fails is reported, but what passes all of them can be said without their order
(`Contract.flaw?_eq_none_iff`).  In a consistent contract the two axes, contiguity and shape
metadata, tell every flag but those for writing and for the format.
-/

namespace MemoryLease
namespace Contract

/-- A contract that does not contradict itself. -/
structure Consistent (c : Contract) : Prop where
  known : c.unknownBits = 0
  extents_of_strides : c.has .strides = true → c.has .extents = true
  strides_of_suboffsets : c.has .suboffsets = true → c.has .strides = true
  strides_of_order : ∀ f ∈ Flag.orders, c.has f = true → c.has .strides = true
  order_unique : ∀ f ∈ Flag.orders, ∀ g ∈ Flag.orders, c.has f = true → c.has g = true → f = g

/-- At most one order is asked for if no two different ones are. -/
theorem countP_orders_le_one_iff {c : Contract} :
    Flag.orders.countP c.has ≤ 1 ↔
      ∀ f ∈ Flag.orders, ∀ g ∈ Flag.orders, c.has f = true → c.has g = true → f = g := by
  simp only [Flag.orders, List.forall_mem_cons, List.countP_cons, List.countP_nil]
  cases c.has .rowMajor <;> cases c.has .columnMajor <;> cases c.has .anyOrder <;> simp

/-- A check that is followed by others finds nothing if neither it nor they do. -/
theorem check_eq_none_iff {p : Prop} [Decidable p] {flaw : Flaw} {others : Option Flaw} :
    (if p then some flaw else others) = none ↔ ¬ p ∧ others = none := by
  by_cases h : p <;> simp [h]

/-- **The checks of a contract** find no flaw exactly in a consistent one. -/
theorem flaw?_eq_none_iff {c : Contract} : c.flaw? = none ↔ c.Consistent := by
  simp only [flaw?, check_eq_none_iff, and_true, ne_eq, not_not, Nat.not_lt,
    countP_orders_le_one_iff, Bool.and_eq_true, Bool.not_eq_true', not_and, Bool.not_eq_false,
    List.any_eq_true, forall_exists_index, and_imp]
  constructor
  · rintro ⟨known, extents, suboffsets, strides, orders⟩
    exact ⟨known, extents, suboffsets, strides, orders⟩
  · rintro ⟨known, extents, suboffsets, strides, orders⟩
    exact ⟨known, extents, suboffsets, strides, orders⟩

/-! ### The axes of a consistent contract -/

variable {c : Contract}

/-- Row-major order is told first, so its flag alone decides. -/
theorem contiguity_eq_rowMajor_iff : c.contiguity = .rowMajor ↔ c.has .rowMajor = true := by
  simp only [contiguity]
  cases c.has .rowMajor <;> cases c.has .columnMajor <;> cases c.has .anyOrder <;> simp

/-- No contiguity is asked for exactly if no flag of an order is there. -/
theorem contiguity_eq_unspecified_iff :
    c.contiguity = .unspecified ↔ ∀ f ∈ Flag.orders, c.has f = false := by
  simp only [contiguity, Flag.orders, List.forall_mem_cons]
  cases c.has .rowMajor <;> cases c.has .columnMajor <;> cases c.has .anyOrder <;> simp

/-- The highest level is told first, so its flag alone decides. -/
theorem metadata_eq_indirect_iff : c.metadata = .indirect ↔ c.has .suboffsets = true := by
  simp only [metadata]
  cases c.has .suboffsets <;> cases c.has .strides <;> cases c.has .extents <;> simp

namespace Consistent

/-- In a consistent contract, the flag of column-major order stands for that order. -/
theorem contiguity_eq_columnMajor_iff (h : c.Consistent) :
    c.contiguity = .columnMajor ↔ c.has .columnMajor = true := by
  have alone := h.order_unique .rowMajor (by decide) .columnMajor (by decide)
  simp only [contiguity]
  cases hr : c.has .rowMajor <;> cases hc : c.has .columnMajor <;> cases c.has .anyOrder <;>
    simp_all

/-- In a consistent contract, the flag of any order stands for either one. -/
theorem contiguity_eq_either_iff (h : c.Consistent) :
    c.contiguity = .either ↔ c.has .anyOrder = true := by
  have alone := h.order_unique .anyOrder (by decide)
  simp only [contiguity]
  cases hr : c.has .rowMajor <;> cases hc : c.has .columnMajor <;> cases ha : c.has .anyOrder <;>
    simp_all [Flag.orders]

/-- In a consistent contract, the flag of the strides stands for them and for what includes them. -/
theorem strides_le_metadata_iff (h : c.Consistent) :
    Metadata.strides ≤ c.metadata ↔ c.has .strides = true := by
  have strides := h.strides_of_suboffsets
  simp only [metadata]
  cases hs : c.has .suboffsets <;> cases ht : c.has .strides <;> cases he : c.has .extents <;>
    simp_all +decide

/-- In a consistent contract, the flag of the extents stands for them and for what includes them. -/
theorem extents_le_metadata_iff (h : c.Consistent) :
    Metadata.extents ≤ c.metadata ↔ c.has .extents = true := by
  have extents := h.extents_of_strides
  have strides := h.strides_of_suboffsets
  simp only [metadata]
  cases hs : c.has .suboffsets <;> cases ht : c.has .strides <;> cases he : c.has .extents <;>
    simp_all +decide

end Consistent
end Contract
end MemoryLease
