import MemoryLease.Proofs.Shape.Count
import MemoryLease.Region

/-!
# The length of a region

A shape and strides describe a region if there are as many of one as of the other and the shape has
a length in bytes (`RawLayout.new`).  Without an extent of zero it has one exactly if neither its
items nor their bytes are more than a size counts, in whatever order the extents stand.  With one
the region is empty, and it has a length unless that extent comes too late
(`Region.regions_exist_by_size`).
-/

namespace MemoryLease
namespace Region

open Shape (ZeroInTime count?)

variable {base : Address} {itemSize length : Nat} {shape : List Nat} {strides : List Int}

/-- A region that could be stated has a stride for each extent, and the length of its items. -/
theorem strided_eq_ok {r : Region} (h : strided base itemSize shape strides = .ok r) :
    strides.length = shape.length ∧ ∃ length, Shape.byteLength? itemSize shape = some length ∧
      r = ⟨base, length, itemSize, false, "B", shape, strides, none⟩ := by
  unfold strided at h
  split at h
  · cases h
  · rename_i hl
    split at h
    · cases h
    · rename_i length hb
      exact ⟨by omega, length, hb, (Except.ok.inj h).symm⟩

/-- A region whose length is a size can be stated. -/
theorem strided_of_byteLength? (hl : strides.length = shape.length)
    (hb : Shape.byteLength? itemSize shape = some length) :
    strided base itemSize shape strides =
      .ok ⟨base, length, itemSize, false, "B", shape, strides, none⟩ := by
  rw [strided, if_neg (not_not.2 hl.symm), hb]

/-- A region whose length is no size cannot be stated. -/
theorem strided_of_too_large (hl : strides.length = shape.length)
    (hb : Shape.byteLength? itemSize shape = none) :
    strided base itemSize shape strides = .error .regionTooLarge := by
  rw [strided, if_neg (not_not.2 hl.symm), hb]

/-- What a region states fits together exactly if it has a stride for each extent and the length
that its items take. -/
theorem inconsistency?_eq_none_iff {r : Region} :
    r.inconsistency? = none ↔ r.strides.length = r.shape.length ∧
      Shape.byteLength? r.itemSize r.shape = some r.length := by
  unfold inconsistency?
  split
  · rename_i unequal
    simp [Ne.symm unequal]
  · rename_i equal
    split
    · rename_i other
      simp [other]
    · rename_i same
      simp [not_not.1 same, (not_not.1 equal).symm]

/-- A region has a length, or it is too large. -/
theorem strided_eq_regionTooLarge_iff (hl : strides.length = shape.length) :
    strided base itemSize shape strides = .error .regionTooLarge ↔
      Shape.byteLength? itemSize shape = none := by
  cases hb : Shape.byteLength? itemSize shape with
  | none => simp [strided_of_too_large hl hb]
  | some length => simp [strided_of_byteLength? hl hb]

/-- **Which shapes are counted, and which describe a region.**  A shape has a count exactly if the
product of its extents is a size, and the count is this product, in whatever order the extents
stand, unless an extent of zero comes too late: such a shape has no count although its product is
zero.  Likewise a region is refused as too large exactly if there are more items, or more bytes,
than a size counts, or if an extent of zero comes too late.  Otherwise it has as many bytes as its
items take. -/
theorem regions_exist_by_size (shape : List Nat) :
    (ZeroInTime shape → ∀ n, count? shape = some n ↔ shape.prod ≤ sizeMax ∧ n = shape.prod) ∧
    (¬ ZeroInTime shape → shape.prod = 0 ∧ count? shape = none) ∧
    (0 ∉ shape → ZeroInTime shape) ∧
    (∀ other, shape.Perm other → ZeroInTime shape → ZeroInTime other →
      count? other = count? shape) ∧
    ∀ base itemSize strides, strides.length = shape.length →
      (strided base itemSize shape strides = .error .regionTooLarge ↔
        ¬ ZeroInTime shape ∨ sizeMax < shape.prod ∨ sizeMax < shape.prod * itemSize) ∧
      (ZeroInTime shape → shape.prod ≤ sizeMax → shape.prod * itemSize ≤ sizeMax →
        ∃ r, strided base itemSize shape strides = .ok r ∧ r.length = shape.prod * itemSize) := by
  refine ⟨fun inTime n => ?_, fun late => ?_, Shape.zeroInTime_of_not_mem,
    fun other => Shape.count?_of_perm, fun base itemSize strides hl => ⟨?_, ?_⟩⟩
  · rw [Shape.count?_eq_some_iff, Shape.counted_iff, and_iff_right inTime]
  · have zero : 0 ∈ shape := by
      by_contra hz
      exact late (Shape.zeroInTime_of_not_mem hz)
    refine ⟨List.prod_eq_zero zero, Shape.count?_eq_none_iff.2 fun counted => ?_⟩
    exact late (Shape.counted_iff.1 counted).1
  · rw [strided_eq_regionTooLarge_iff hl, Shape.byteLength?_eq_none_iff, Shape.counted_iff,
      not_and_or, Nat.not_le, or_assoc]
  · intro inTime items bytes
    have counted := Shape.counted_iff.2 ⟨inTime, items⟩
    exact ⟨_, strided_of_byteLength? hl (Shape.byteLength?_eq_some_iff.2 ⟨counted, bytes, rfl⟩),
      rfl⟩

/-- Half the address space in items of one byte, and a shape whose zero comes before its huge
extents, are counted in any such order. -/
theorem regions_exist_by_size_huge_extents :
    count? [2 ^ 31, 1, 2 ^ 32] = some (2 ^ 63) ∧
    count? [2 ^ 32, 2 ^ 31, 1] = count? [2 ^ 31, 1, 2 ^ 32] ∧
    count? [3, 0, 2 ^ 63, 2] = some 0 ∧
    (∃ r, strided (.fixed 4096) 1 [2 ^ 31, 1, 2 ^ 32] [0, -1, 1] = .ok r ∧ r.length = 2 ^ 63) ∧
    strided (.fixed 4096) 2 [2 ^ 31, 1, 2 ^ 32] [0, -1, 1] = .error .regionTooLarge := by
  obtain ⟨counts, -, inTime, reordered, regions⟩ := regions_exist_by_size [2 ^ 31, 1, 2 ^ 32]
  have shape : ZeroInTime [2 ^ 31, 1, 2 ^ 32] := inTime (by decide)
  have other : ZeroInTime [2 ^ 32, 2 ^ 31, 1] := Shape.zeroInTime_of_not_mem (by decide)
  have early : ZeroInTime [3, 0, 2 ^ 63, 2] := fun _ => by decide
  have perm : [2 ^ 31, 1, 2 ^ 32].Perm [2 ^ 32, 2 ^ 31, 1] := by decide
  refine ⟨(counts shape _).2 (by decide), reordered _ perm shape other,
    ((regions_exist_by_size [3, 0, 2 ^ 63, 2]).1 early 0).2 (by decide), ?_, ?_⟩
  · exact (regions (.fixed 4096) 1 [0, -1, 1] rfl).2 shape (by decide) (by decide)
  · exact (regions (.fixed 4096) 2 [0, -1, 1] rfl).1.2 (.inr (.inr (by decide)))

/-- An extent of zero behind two huge ones comes too late: the region has no items, and is refused
as larger than the address space.  With the zero in front it is counted. -/
theorem empty_region_refused_as_too_large :
    [2 ^ 63, 2, 0].prod = 0 ∧ count? [2 ^ 63, 2, 0] = none ∧ count? [0, 2 ^ 63, 2] = some 0 ∧
      strided (.fixed 4096) 1 [2 ^ 63, 2, 0] [0, 0, 1] = .error .regionTooLarge ∧
      ∃ r, strided (.fixed 4096) 1 [0, 2 ^ 63, 2] [1, 0, 0] = .ok r ∧ r.length = 0 :=
  ⟨rfl, rfl, rfl, rfl, _, rfl, rfl⟩

end Region
end MemoryLease
