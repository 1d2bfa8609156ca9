import Mathlib.Algebra.BigOperators.Group.List.Lemmas
import MemoryLease.Proofs.Strides.Contiguity

/-!
# The strides of an order

In a region without gaps, two items that are neighbours along a dimension are as many items apart as
there are indexes of the dimensions that the order goes through faster (`MemoryOrder.stride`).  The
canonical strides are these numbers, and a shape has them exactly if each of them is an offset
(`Strides.canonical?_eq_some_iff`): the products on the way to them are no larger than they are, and
the extent of the slowest dimension plays no part.

The test for contiguity multiplies by that extent all the same.  So it agrees with the canonical
strides as long as the whole region is not larger than the address space, and refuses them where it
is (`Strides.canonical_strides_are_contiguous`).
-/

namespace MemoryLease

namespace MemoryOrder

/-- The extents of the dimensions that an order goes through faster than a given one. -/
def faster (order : MemoryOrder) (shape : List Nat) (d : Nat) : List Nat :=
  match order with
  | .rowMajor => shape.drop (d + 1)
  | .columnMajor => shape.take d

/-- How many bytes apart two items are that are neighbours along a dimension, when all items follow
each other without gaps in an order. -/
def stride (order : MemoryOrder) (itemSize : Nat) (shape : List Nat) (d : Nat) : Nat :=
  itemSize * (order.faster shape d).prod

/-- The stride of each dimension. -/
def strides (order : MemoryOrder) (itemSize : Nat) (shape : List Nat) : List Int :=
  (List.range shape.length).map fun d => (order.stride itemSize shape d : Int)

/-- The stride of each dimension is an offset. -/
def HasStrides (order : MemoryOrder) (itemSize : Nat) (shape : List Nat) : Prop :=
  ∀ d < shape.length, (order.stride itemSize shape d : Int) ≤ offsetMax

variable {itemSize n : Nat} {shape : List Nat}

/-- The dimension that an order goes through slowest. -/
def slowest (order : MemoryOrder) (shape : List Nat) : Nat :=
  match order with
  | .rowMajor => 0
  | .columnMajor => shape.length - 1

/-- No dimension is slower than the slowest one. -/
theorem faster_set_slowest (order : MemoryOrder) (n : Nat) {d : Nat} (hd : d < shape.length) :
    order.faster (shape.set (order.slowest shape) n) d = order.faster shape d := by
  cases order with
  | rowMajor => exact List.drop_set_of_lt (Nat.succ_pos d)
  | columnMajor =>
    have behind : d ≤ shape.length - 1 := by omega
    exact List.take_set_of_le behind

/-- The strides do not depend on the slowest extent. -/
theorem strides_set_slowest (order : MemoryOrder) (itemSize n : Nat) (shape : List Nat) :
    order.strides itemSize (shape.set (order.slowest shape) n) = order.strides itemSize shape := by
  rw [strides, strides, List.length_set]
  refine List.map_congr_left fun d hd => ?_
  rw [stride, stride, faster_set_slowest order n (List.mem_range.1 hd)]

/-- Whether the strides are offsets does not depend on the slowest extent. -/
theorem hasStrides_set_slowest_iff (order : MemoryOrder) (itemSize n : Nat) (shape : List Nat) :
    order.HasStrides itemSize (shape.set (order.slowest shape) n) ↔
      order.HasStrides itemSize shape := by
  simp only [HasStrides, List.length_set]
  refine forall₂_congr fun d hd => ?_
  rw [stride, stride, faster_set_slowest order n hd]

/-! ### Column-major order, dimension by dimension -/

/-- A slower stride counts in blocks of the fastest extent. -/
theorem stride_succ (itemSize n : Nat) (ns : List Nat) (d : Nat) :
    columnMajor.stride itemSize (n :: ns) (d + 1) = columnMajor.stride (itemSize * n) ns d := by
  simp only [stride, faster, List.take_succ_cons, List.prod_cons, Nat.mul_assoc]

/-- The fastest stride is one item, and the others count in blocks of the fastest extent. -/
theorem strides_cons (itemSize n : Nat) (ns : List Nat) :
    columnMajor.strides itemSize (n :: ns) =
      (itemSize : Int) :: columnMajor.strides (itemSize * n) ns := by
  rw [strides, List.length_cons, List.range_succ_eq_map, List.map_cons, List.map_map]
  refine congrArg₂ List.cons ?_ (List.map_congr_left fun d _ => ?_)
  · simp [stride, faster]
  · exact congrArg Nat.cast (stride_succ itemSize n ns d)

/-- The strides are offsets exactly if the fastest one is and, in blocks of its extent, the others
are. -/
theorem hasStrides_cons_iff {ns : List Nat} :
    columnMajor.HasStrides itemSize (n :: ns) ↔
      (itemSize : Int) ≤ offsetMax ∧ columnMajor.HasStrides (itemSize * n) ns := by
  constructor
  · intro h
    refine ⟨?_, fun d hd => ?_⟩
    · simpa [stride, faster] using h 0 (Nat.succ_pos _)
    · have hs := h (d + 1) (Nat.succ_lt_succ hd)
      rwa [stride_succ] at hs
  · rintro ⟨first, rest⟩ d hd
    cases d with
    | zero => simpa [stride, faster] using first
    | succ d =>
      rw [stride_succ]
      exact rest d (Nat.lt_of_succ_lt_succ hd)

/-! ### Row-major order, by reversing the dimensions -/

/-- Row-major strides are column-major strides backwards, one by one. -/
theorem stride_reverse {d : Nat} (itemSize : Nat) (hd : d < shape.length) :
    columnMajor.stride itemSize shape.reverse (shape.length - 1 - d) =
      rowMajor.stride itemSize shape d := by
  have hl : shape.length - (shape.length - 1 - d) = d + 1 := by omega
  simp only [stride, faster, List.take_reverse, List.prod_reverse, hl]

/-- Row-major strides are column-major strides backwards. -/
theorem strides_reverse (itemSize : Nat) (shape : List Nat) :
    (columnMajor.strides itemSize shape.reverse).reverse = rowMajor.strides itemSize shape := by
  apply List.ext_getElem
  · simp [strides]
  · intro d h₁ h₂
    have hd : d < shape.length := by simpa [strides] using h₂
    simp only [strides, List.getElem_reverse, List.getElem_map, List.getElem_range,
      List.length_map, List.length_range, List.length_reverse, stride_reverse itemSize hd]

/-- Row-major strides are offsets exactly if column-major strides are backwards. -/
theorem hasStrides_reverse_iff :
    columnMajor.HasStrides itemSize shape.reverse ↔ rowMajor.HasStrides itemSize shape := by
  constructor
  · intro h d hd
    rw [← stride_reverse itemSize hd]
    exact h _ (by rw [List.length_reverse]; omega)
  · intro h d hd
    rw [List.length_reverse] at hd
    have hs := h (shape.length - 1 - d) (by omega)
    rwa [← stride_reverse itemSize (by omega),
      show shape.length - 1 - (shape.length - 1 - d) = d by omega] at hs

end MemoryOrder

namespace Strides

open MemoryOrder

/-- What the dimensions, the fastest first, get for strides. -/
theorem fastestFirst_eq_some_iff {step : Nat} {shape : List Nat} {strides : List Int} :
    fastestFirst step shape = some strides ↔
      columnMajor.HasStrides step shape ∧ strides = columnMajor.strides step shape := by
  induction shape generalizing step strides with
  | nil =>
    have none : columnMajor.HasStrides step [] := fun d hd => absurd hd (Nat.not_lt_zero d)
    simp [fastestFirst, MemoryOrder.strides, none, eq_comm]
  | cons n ns ih =>
    rw [hasStrides_cons_iff, strides_cons]
    cases ns with
    | nil =>
      have none : columnMajor.HasStrides (step * n) [] := fun d hd => absurd hd (Nat.not_lt_zero d)
      simp [fastestFirst, offset?_natCast_eq_some_iff, MemoryOrder.strides, none, eq_comm]
    | cons m ms =>
      constructor
      · intro h
        obtain ⟨s, hs, h₁⟩ := Option.bind_eq_some_iff.1 h
        obtain ⟨product, hp, h₂⟩ := Option.bind_eq_some_iff.1 h₁
        obtain ⟨rest, hr, rfl⟩ := Option.map_eq_some_iff.1 h₂
        obtain ⟨first, rfl⟩ := offset?_natCast_eq_some_iff.1 hs
        obtain ⟨-, rfl⟩ := size?_eq_some_iff.1 hp
        obtain ⟨others, rfl⟩ := ih.1 hr
        exact ⟨⟨first, others⟩, rfl⟩
      · rintro ⟨⟨first, others⟩, rfl⟩
        -- the product is the stride of the next dimension, which is an offset
        have product : size? (step * n) = some (step * n) := by
          have next := (hasStrides_cons_iff.1 others).1
          have := offsetMax_lt_sizeMax
          exact size?_eq_some_iff.2 ⟨by omega, rfl⟩
        rw [fastestFirst, offset?_natCast_eq_some_iff.2 ⟨first, rfl⟩, product,
          Option.bind_some, Option.bind_some, ih.2 ⟨others, rfl⟩]
        rfl

/-- **The canonical strides of an order** exist exactly if the stride of each dimension is an
offset, and are these strides then. -/
theorem canonical?_eq_some_iff {order : MemoryOrder} {itemSize : Nat} {shape : List Nat}
    {strides : List Int} :
    canonical? order itemSize shape = some strides ↔
      order.HasStrides itemSize shape ∧ strides = order.strides itemSize shape := by
  cases order with
  | columnMajor => exact fastestFirst_eq_some_iff
  | rowMajor =>
    rw [← hasStrides_reverse_iff, ← strides_reverse]
    constructor
    · intro h
      obtain ⟨reversed, hr, rfl⟩ := Option.map_eq_some_iff.1 h
      obtain ⟨fits, rfl⟩ := fastestFirst_eq_some_iff.1 hr
      exact ⟨fits, rfl⟩
    · rintro ⟨fits, rfl⟩
      exact Option.map_eq_some_iff.2 ⟨_, fastestFirst_eq_some_iff.2 ⟨fits, rfl⟩, rfl⟩

/-- A shape has strides if all its items together take no more bytes than an offset counts. -/
theorem hasStrides_of_le {order : MemoryOrder} {itemSize : Nat} {shape : List Nat} (hz : 0 ∉ shape)
    (h : ((itemSize * shape.prod : Nat) : Int) ≤ offsetMax) : order.HasStrides itemSize shape := by
  intro d _
  have sub : (order.faster shape d).Sublist shape := by
    cases order with
    | rowMajor => exact List.drop_sublist _ _
    | columnMajor => exact List.take_sublist _ _
  have positive : 0 < shape.prod := Nat.pos_of_ne_zero (List.prod_ne_zero hz)
  have fewer : (order.faster shape d).prod ≤ shape.prod :=
    Nat.le_of_dvd positive sub.prod_dvd_prod
  have stride : order.stride itemSize shape d ≤ itemSize * shape.prod :=
    Nat.mul_le_mul_left itemSize fewer
  omega

/-- There are canonical strides exactly if each product is an offset. -/
theorem exists_canonical?_iff {order : MemoryOrder} {itemSize : Nat} {shape : List Nat} :
    (∃ strides, canonical? order itemSize shape = some strides) ↔
      order.HasStrides itemSize shape := by
  constructor
  · rintro ⟨strides, h⟩
    exact (canonical?_eq_some_iff.1 h).1
  · intro fits
    exact ⟨_, canonical?_eq_some_iff.2 ⟨fits, rfl⟩⟩

/-- Canonical strides are returned exactly if there are some. -/
theorem canonical_eq_ok_iff {order : MemoryOrder} {itemSize : Nat} {shape : List Nat}
    {strides : List Int} :
    canonical order itemSize shape = .ok strides ↔
      canonical? order itemSize shape = some strides := by
  unfold canonical
  split <;> simp_all

/-- Asking for canonical strides faults exactly if there are none. -/
theorem canonical_eq_error_iff {order : MemoryOrder} {itemSize : Nat} {shape : List Nat} :
    canonical order itemSize shape = .error .canonicalStrides ↔
      canonical? order itemSize shape = none := by
  unfold canonical
  split <;> simp_all

/-- The extent of the slowest dimension plays no part in the canonical strides. -/
theorem canonical?_set_slowest (order : MemoryOrder) (itemSize n : Nat) (shape : List Nat) :
    canonical? order itemSize (shape.set (order.slowest shape) n) =
      canonical? order itemSize shape := by
  refine Option.ext fun strides => ?_
  rw [canonical?_eq_some_iff, canonical?_eq_some_iff, hasStrides_set_slowest_iff,
    strides_set_slowest]

/-- **The canonical strides are products, and nothing on the way to them overflows first.**  A shape
has canonical strides in an order exactly if, for every dimension, the size of an item times the
extents of all faster dimensions is an offset, and these numbers are the strides then; a caller that
knows them to exist faults exactly if they do not.  The extent of the slowest dimension does not
matter. -/
theorem canonical_strides_are_products (order : MemoryOrder) (itemSize : Nat) (shape : List Nat) :
    ((∃ strides, canonical? order itemSize shape = some strides) ↔
      ∀ d < shape.length, ((itemSize * (order.faster shape d).prod : Nat) : Int) ≤ offsetMax) ∧
    (∀ strides, canonical? order itemSize shape = some strides →
      strides.length = shape.length ∧
        ∀ d < shape.length,
          strides[d]? = some ((itemSize * (order.faster shape d).prod : Nat) : Int)) ∧
    (∀ strides, canonical order itemSize shape = .ok strides ↔
      canonical? order itemSize shape = some strides) ∧
    (canonical order itemSize shape = .error .canonicalStrides ↔
      canonical? order itemSize shape = none) ∧
    ∀ n, canonical? order itemSize (shape.set (order.slowest shape) n) =
      canonical? order itemSize shape := by
  refine ⟨exists_canonical?_iff, fun strides h => ⟨length_canonical? h, fun d hd => ?_⟩,
    fun strides => canonical_eq_ok_iff, canonical_eq_error_iff,
    fun n => canonical?_set_slowest order itemSize n shape⟩
  obtain ⟨-, rfl⟩ := canonical?_eq_some_iff.1 h
  rw [MemoryOrder.strides, List.getElem?_map, List.getElem?_range hd]
  rfl

/-- An empty shape with a huge extent has strides if that extent is the slowest, and none if a
further dimension is slower. -/
theorem canonical_strides_are_products_huge_extent :
    (∃ strides, canonical? .rowMajor 8 [2 ^ 64 - 1, 0] = some strides ∧ strides[0]? = some 0 ∧
      strides[1]? = some 8) ∧
    canonical .rowMajor 8 [0, 2 ^ 64 - 1, 2] = .error .canonicalStrides := by
  obtain ⟨exactly, products, -⟩ := canonical_strides_are_products .rowMajor 8 [2 ^ 64 - 1, 0]
  obtain ⟨strides, h⟩ := exactly.2 (by decide)
  obtain ⟨-, product⟩ := products strides h
  obtain ⟨exactly', -, -, fault, -⟩ :=
    canonical_strides_are_products .rowMajor 8 [0, 2 ^ 64 - 1, 2]
  refine ⟨⟨strides, h, product 0 (by decide), product 1 (by decide)⟩, fault.2 ?_⟩
  refine Option.eq_none_iff_forall_ne_some.2 fun strides h => ?_
  have slow := exactly'.1 ⟨strides, h⟩ 0 (by decide)
  exact absurd slow (by decide)

example : MemoryOrder.rowMajor.strides 8 [3, 4] = [32, 8] ∧
    MemoryOrder.columnMajor.strides 8 [3, 4] = [8, 24] := by decide

/-! ### The test for contiguity -/

/-- A shape has these strides if all its items together take no more bytes than an offset counts. -/
theorem canonical?_of_le {order : MemoryOrder} {itemSize : Nat} {shape : List Nat} (hz : 0 ∉ shape)
    (h : ((itemSize * shape.prod : Nat) : Int) ≤ offsetMax) :
    canonical? order itemSize shape = some (order.strides itemSize shape) :=
  canonical?_eq_some_iff.2 ⟨hasStrides_of_le hz h, rfl⟩

/-- Canonical strides leave no gaps, as long as the length is a size. -/
theorem isContiguous_of_canonical? {order : MemoryOrder} {itemSize : Nat} {shape : List Nat}
    {strides : List Int} (h : canonical? order itemSize shape = some strides)
    (fits : shape.prod * itemSize ≤ sizeMax) : isContiguous order itemSize shape strides = true :=
  isContiguous_of_offsetOf (length_canonical? h) fits fun _ hb =>
    offsetOf_of_canonical? h hb.length_eq

/-- **Canonical strides are contiguous** in their order if the region is not larger than the address
space, whatever extents of zero or one it has.  If it is larger, the test refuses them in both
orders: they exist, since the extent of the slowest dimension is no factor of them, but no memory is
laid out like that. -/
theorem canonical_strides_are_contiguous {order : MemoryOrder} {itemSize : Nat} {shape : List Nat}
    {strides : List Int} (small : itemSize ≤ sizeMax)
    (h : canonical? order itemSize shape = some strides) :
    (shape.prod * itemSize ≤ sizeMax → isContiguous order itemSize shape strides = true) ∧
    (sizeMax < shape.prod * itemSize →
      ∀ other, isContiguous other itemSize shape strides = false) :=
  ⟨isContiguous_of_canonical? h,
    fun large other => isContiguous_of_too_large (length_canonical? h) small large other⟩

/-- A huge extent does no harm in a region without items, and in one with items only if the region
outgrows the address space. -/
theorem canonical_strides_are_contiguous_huge_extent :
    isContiguous .rowMajor 8 [2 ^ 64 - 1, 0] [0, 8] = true ∧
    isContiguous .columnMajor 1 [1, 2 ^ 64 - 1] [1, 1] = true ∧
    isContiguous .columnMajor 2 [1, 2 ^ 64 - 1] [2, 2] = false := by
  obtain ⟨empty, -⟩ := @canonical_strides_are_contiguous .rowMajor 8 [2 ^ 64 - 1, 0] [0, 8]
    (by decide) (by decide)
  obtain ⟨whole, -⟩ := @canonical_strides_are_contiguous .columnMajor 1 [1, 2 ^ 64 - 1] [1, 1]
    (by decide) (by decide)
  obtain ⟨-, beyond⟩ := @canonical_strides_are_contiguous .columnMajor 2 [1, 2 ^ 64 - 1] [2, 2]
    (by decide) (by decide)
  exact ⟨empty (by decide), whole (by decide), beyond (by decide) .columnMajor⟩

/-- The strides of a region that is just larger than the address space are canonical in both orders
and contiguous in none. -/
theorem canonical_strides_of_oversized_region :
    2 ^ 63 ≤ sizeMax ∧
    canonical? .rowMajor 2 [2 ^ 63] = some [2] ∧ isContiguous .rowMajor 2 [2 ^ 63] [2] = false ∧
    canonical? .columnMajor 2 [2 ^ 63] = some [2] ∧
    isContiguous .columnMajor 2 [2 ^ 63] [2] = false := by decide

end Strides
end MemoryLease
