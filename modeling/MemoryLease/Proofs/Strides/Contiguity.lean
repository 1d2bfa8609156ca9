import Mathlib.Algebra.BigOperators.Ring.List
import Mathlib.Tactic.Linarith
import Mathlib.Tactic.Ring
import MemoryLease.Proofs.Shape.Ranks
import MemoryLease.Strides

/-!
# Strides without gaps

The test for contiguity compares strides, one dimension after the other.  What it tells is where
the items lie: a region that is not larger than the address space passes it if and only if every
index inside the shape lies as many items from the first as its rank says (`isContiguous_iff`), and
a larger region never passes it (`isContiguous_of_too_large`).  The canonical strides of an order
put the items into the same places (`offsetOf_of_canonical?`), so a region that is contiguous in an
order can be walked by the canonical strides of that order instead of its own.

Both are proved for the column-major order, in which the dimensions stand the fastest first, and
carried over to the row-major order by reversing the dimensions.
-/

namespace MemoryLease

/-- The number of items in front of an index in an order. -/
def MemoryOrder.rank : MemoryOrder → List Nat → List Nat → Nat
  | .rowMajor => Shape.rowRank
  | .columnMajor => Shape.columnRank

namespace Strides

open Shape (InBounds columnRank rowRank)

/-- The offset of an index is that of its first positions and that of the others. -/
theorem offsetOf_append {ss ts : List Int} {is js : List Nat} (h : is.length = ss.length) :
    offsetOf (ss ++ ts) (is ++ js) = offsetOf ss is + offsetOf ts js := by
  induction ss generalizing is with
  | nil =>
    obtain rfl := List.length_eq_zero_iff.1 h
    simp [offsetOf]
  | cons s ss ih =>
    cases is with
    | nil => simp at h
    | cons i is =>
      simp only [List.cons_append, offsetOf, ih (Nat.succ.inj h)]
      ring

/-- Strides and positions may be gone through backwards. -/
theorem offsetOf_reverse {strides : List Int} {index : List Nat}
    (h : index.length = strides.length) :
    offsetOf strides.reverse index.reverse = offsetOf strides index := by
  induction strides generalizing index with
  | nil =>
    obtain rfl := List.length_eq_zero_iff.1 h
    rfl
  | cons s ss ih =>
    cases index with
    | nil => simp at h
    | cons i is =>
      have hl : is.length = ss.length := Nat.succ.inj h
      rw [List.reverse_cons, List.reverse_cons, offsetOf_append (by simp [hl]), ih hl]
      simp only [offsetOf]
      ring

/-- The origin lies at the start. -/
theorem offsetOf_origin (strides : List Int) (shape : List Nat) :
    offsetOf strides (Shape.origin shape) = 0 := by
  induction strides generalizing shape with
  | nil => rfl
  | cons s ss ih =>
    cases shape with
    | nil => rfl
    | cons n ns =>
      show ((0 : Nat) : Int) * s + offsetOf ss (Shape.origin ns) = 0
      rw [ih ns]
      omega

/-- Two lists of one length are paired backwards as they are forwards. -/
theorem reverse_zip {shape : List Nat} {strides : List Int}
    (h : strides.length = shape.length) :
    (shape.zip strides).reverse = shape.reverse.zip strides.reverse := by
  rw [List.zip_eq_zipWith, List.zip_eq_zipWith, List.reverse_zipWith h.symm]

/-! ### What the test for contiguity tells -/

/-- Dimensions that follow each other without gaps, the fastest first, lay the items out in
column-major order. -/
theorem offsetOf_of_gapless {expected : Nat} {shape index : List Nat} {strides : List Int}
    (h : gapless expected (shape.zip strides) = true) (hl : strides.length = shape.length)
    (hb : InBounds shape index) :
    offsetOf strides index = expected * columnRank shape index := by
  induction shape generalizing expected strides index with
  | nil =>
    obtain rfl := List.length_eq_zero_iff.1 hl
    cases index <;> simp [offsetOf, columnRank]
  | cons n ns ih =>
    cases strides with
    | nil => simp at hl
    | cons s ss =>
      cases index with
      | nil => exact hb.elim
      | cons i is =>
        obtain ⟨hi, hb⟩ := hb
        rw [List.zip_cons_cons, gapless] at h
        split at h
        · cases h
        · rename_i hs
          split at h
          · cases h
          · rename_i next hn
            obtain ⟨-, rfl⟩ := size?_eq_some_iff.1 hn
            -- a dimension of extent one has any stride, and its only position is zero
            have hf : (i : Int) * s = i * expected := by
              rcases Nat.eq_zero_or_pos i with rfl | hp
              · simp
              · have : s = expected := by by_contra hne; exact hs ⟨by omega, hne⟩
                rw [this]
            rw [offsetOf, columnRank, hf, ih h (Nat.succ.inj hl) hb]
            push_cast
            ring

/-- Dimensions that lay the items out in column-major order follow each other without gaps. -/
theorem gapless_of_offsetOf {expected : Nat} {shape : List Nat} {strides : List Int}
    (hl : strides.length = shape.length) (hz : 0 ∉ shape) (fits : expected * shape.prod ≤ sizeMax)
    (h : ∀ index, InBounds shape index →
      offsetOf strides index = expected * columnRank shape index) :
    gapless expected (shape.zip strides) = true := by
  induction shape generalizing expected strides with
  | nil => rfl
  | cons n ns ih =>
    cases strides with
    | nil => simp at hl
    | cons s ss =>
      rw [List.mem_cons, not_or] at hz
      obtain ⟨hn, hz⟩ := hz
      -- the neighbour of the first item along this dimension tells its stride
      have neighbour : 1 < n → s = expected := by
        intro hn
        have hi := h (1 :: Shape.origin ns) ⟨hn, Shape.inBounds_origin hz⟩
        simpa [offsetOf, columnRank, offsetOf_origin, Shape.columnRank_origin] using hi
      have product : size? (expected * n) = some (expected * n) := by
        have hp : 0 < ns.prod := Nat.pos_of_ne_zero (List.prod_ne_zero hz)
        rw [List.prod_cons, ← Nat.mul_assoc] at fits
        exact size?_eq_some_iff.2 ⟨(Nat.le_mul_of_pos_right _ hp).trans fits, rfl⟩
      rw [List.zip_cons_cons, gapless, if_neg fun hs => hs.2 (neighbour hs.1), product]
      refine ih (Nat.succ.inj hl) hz ?_ fun index hb => ?_
      · rwa [List.prod_cons, ← Nat.mul_assoc] at fits
      · have hi := h (0 :: index) ⟨by omega, hb⟩
        simp only [offsetOf, columnRank] at hi
        push_cast at hi ⊢
        linarith

/-- Some dimension has an extent of zero exactly if some extent is zero. -/
theorem any_extent_eq_zero_iff {shape : List Nat} {strides : List Int}
    (hl : strides.length = shape.length) :
    (shape.zip strides).any (fun dimension => dimension.1 == 0) = true ↔ 0 ∈ shape := by
  have hm : (shape.zip strides).map Prod.fst = shape := List.map_fst_zip hl.ge
  constructor
  · intro h
    obtain ⟨dimension, hd, h₀⟩ := List.any_eq_true.1 h
    rw [← hm]
    exact List.mem_map.2 ⟨dimension, hd, by simpa using h₀⟩
  · intro h
    rw [← hm] at h
    obtain ⟨dimension, hd, h₀⟩ := List.mem_map.1 h
    exact List.any_eq_true.2 ⟨dimension, hd, by simpa using h₀⟩

/-- Without gaps, an item lies as many item sizes from the start as there are items before it. -/
theorem offsetOf_of_isContiguous {order : MemoryOrder} {itemSize : Nat} {shape index : List Nat}
    {strides : List Int} (h : isContiguous order itemSize shape strides = true)
    (hl : strides.length = shape.length) (hb : InBounds shape index) :
    offsetOf strides index = itemSize * order.rank shape index := by
  have hz : (shape.zip strides).any (fun dimension => dimension.1 == 0) = false := by
    rw [Bool.eq_false_iff]
    exact fun hz => hb.zero_not_mem ((any_extent_eq_zero_iff hl).1 hz)
  simp only [isContiguous, hz, Bool.false_or] at h
  cases order with
  | rowMajor =>
    simp only [reverse_zip hl] at h
    rw [← offsetOf_reverse (hb.length_eq.trans hl.symm),
      offsetOf_of_gapless h (by simpa using hl) (Shape.inBounds_reverse.2 hb),
      Shape.columnRank_reverse hb.length_eq]
    rfl
  | columnMajor => exact offsetOf_of_gapless h hl hb

/-- If every item lies where the items before it leave off, there are no gaps. -/
theorem isContiguous_of_offsetOf {order : MemoryOrder} {itemSize : Nat} {shape : List Nat}
    {strides : List Int} (hl : strides.length = shape.length)
    (fits : shape.prod * itemSize ≤ sizeMax)
    (h : ∀ index, InBounds shape index →
      offsetOf strides index = itemSize * order.rank shape index) :
    isContiguous order itemSize shape strides = true := by
  simp only [isContiguous, Bool.or_eq_true, any_extent_eq_zero_iff hl]
  refine or_iff_not_imp_left.2 fun hz => ?_
  rw [Nat.mul_comm] at fits
  cases order with
  | columnMajor => exact gapless_of_offsetOf hl hz fits h
  | rowMajor =>
    simp only [reverse_zip hl]
    refine gapless_of_offsetOf (by simpa using hl) (by simpa using hz)
      (by rwa [List.prod_reverse]) fun index hb => ?_
    have hb' : InBounds shape index.reverse := by
      rwa [← Shape.inBounds_reverse, List.reverse_reverse]
    have hi := h index.reverse hb'
    rw [← offsetOf_reverse (by simpa [hl] using hb'.length_eq), List.reverse_reverse] at hi
    have hr : columnRank shape.reverse index = rowRank shape index.reverse := by
      rw [← Shape.columnRank_reverse hb'.length_eq, List.reverse_reverse]
    rw [hi, hr]
    rfl

/-- **What the test for contiguity tells.**  A region that is not larger than the address space is
contiguous in an order exactly if every item lies as many items from the first as its rank says. -/
theorem isContiguous_iff {order : MemoryOrder} {itemSize : Nat} {shape : List Nat}
    {strides : List Int} (hl : strides.length = shape.length)
    (fits : shape.prod * itemSize ≤ sizeMax) :
    isContiguous order itemSize shape strides = true ↔
      ∀ index, InBounds shape index →
        offsetOf strides index = itemSize * order.rank shape index := by
  constructor
  · intro h index hb
    exact offsetOf_of_isContiguous h hl hb
  · exact isContiguous_of_offsetOf hl fits

/-! ### Regions larger than the address space -/

/-- Dimensions that follow each other without gaps take no more bytes than a size counts. -/
theorem prod_le_of_gapless {expected : Nat} {dimensions : List (Nat × Int)}
    (h : gapless expected dimensions = true) (fits : expected ≤ sizeMax) :
    expected * (dimensions.map Prod.fst).prod ≤ sizeMax := by
  induction dimensions generalizing expected with
  | nil => simpa using fits
  | cons dimension dimensions ih =>
    obtain ⟨n, stride⟩ := dimension
    rw [gapless] at h
    split at h
    · cases h
    · split at h
      · cases h
      · rename_i next hn
        obtain ⟨small, rfl⟩ := size?_eq_some_iff.1 hn
        rw [List.map_cons, List.prod_cons, ← Nat.mul_assoc]
        exact ih h small

/-- A region that is larger than the address space is contiguous in neither order. -/
theorem isContiguous_of_too_large {itemSize : Nat} {shape : List Nat} {strides : List Int}
    (hl : strides.length = shape.length) (fits : itemSize ≤ sizeMax)
    (large : sizeMax < shape.prod * itemSize) (order : MemoryOrder) :
    isContiguous order itemSize shape strides = false := by
  have nonempty : 0 ∉ shape := by
    intro hz
    rw [List.prod_eq_zero hz, Nat.zero_mul] at large
    exact Nat.not_lt_zero _ large
  have extents : (shape.zip strides).map Prod.fst = shape := List.map_fst_zip hl.ge
  rw [Nat.mul_comm] at large
  refine Bool.eq_false_iff.2 fun h => Nat.not_le_of_gt large ?_
  simp only [isContiguous, Bool.or_eq_true, any_extent_eq_zero_iff hl] at h
  have follow := h.resolve_left nonempty
  cases order with
  | rowMajor =>
    have bytes := prod_le_of_gapless follow fits
    rwa [List.map_reverse, extents, List.prod_reverse] at bytes
  | columnMajor =>
    have bytes := prod_le_of_gapless follow fits
    rwa [extents] at bytes

/-- **Contiguous means that the rank tells the place.**  In a region that is not larger than the
address space, the test for an order says yes exactly if every index inside the shape lies as many
items from the first as its rank in that order says: whatever the strides of extents of one are, and
always where there is no index at all.  In a region that is larger it says no. -/
theorem isContiguous_exactly {itemSize : Nat} {shape : List Nat} {strides : List Int}
    (hl : strides.length = shape.length) :
    (shape.prod * itemSize ≤ sizeMax →
      (isContiguous .rowMajor itemSize shape strides = true ↔ ∀ index, InBounds shape index →
        offsetOf strides index = itemSize * rowRank shape index) ∧
      (isContiguous .columnMajor itemSize shape strides = true ↔ ∀ index, InBounds shape index →
        offsetOf strides index = itemSize * columnRank shape index)) ∧
    (itemSize ≤ sizeMax → sizeMax < shape.prod * itemSize →
      ∀ order, isContiguous order itemSize shape strides = false) := by
  refine ⟨fun fits => ⟨?_, ?_⟩, fun small large => isContiguous_of_too_large hl small large⟩
  · exact isContiguous_iff hl fits
  · exact isContiguous_iff hl fits

/-- Two rows of three items, with a dimension of extent one between them whose stride is arbitrary:
the items lie in row-major order and not in column-major order.  If the items are half as large as
the address space, the test says no. -/
theorem isContiguous_exactly_unit_extent :
    (∀ index, InBounds [2, 1, 3] index →
      offsetOf [12, -7, 4] index = (4 : Nat) * rowRank [2, 1, 3] index) ∧
    isContiguous .columnMajor 4 [2, 1, 3] [12, -7, 4] = false ∧
    isContiguous .rowMajor (2 ^ 63) [2, 1, 3] [12, -7, 4] = false := by
  have equal : [12, -7, (4 : Int)].length = [2, 1, 3].length := rfl
  have fits : [2, 1, 3].prod * 4 ≤ sizeMax := by decide
  have large : sizeMax < [2, 1, 3].prod * 2 ^ 63 := by decide
  obtain ⟨rows, columns⟩ := (isContiguous_exactly equal).1 fits
  refine ⟨rows.1 (by decide), Bool.eq_false_iff.2 fun h => ?_, ?_⟩
  · -- the second row starts one row after the first, which is more than one item
    have second := columns.1 h [1, 0, 0] (by decide)
    exact absurd second (by decide)
  · exact (isContiguous_exactly equal).2 (by decide) large .rowMajor

/-! ### Where canonical strides put the items -/

/-- With canonical strides, an item lies as many steps from the start as there are items before it.
-/
theorem offsetOf_of_fastestFirst {step : Nat} {shape index : List Nat} {strides : List Int}
    (h : fastestFirst step shape = some strides) (hl : index.length = shape.length) :
    offsetOf strides index = step * columnRank shape index := by
  induction shape generalizing step strides index with
  | nil =>
    obtain rfl := Option.some.inj h
    simp [offsetOf, columnRank]
  | cons n ns ih =>
    cases index with
    | nil => simp at hl
    | cons i is =>
      have hl : is.length = ns.length := Nat.succ.inj hl
      cases ns with
      | nil =>
        obtain ⟨s, hs, rfl⟩ := Option.map_eq_some_iff.1 h
        obtain ⟨-, rfl⟩ := offset?_eq_some_iff.1 hs
        obtain rfl := List.length_eq_zero_iff.1 hl
        simp only [offsetOf, columnRank]
        push_cast
        ring
      | cons m ms =>
        obtain ⟨s, hs, h₁⟩ := Option.bind_eq_some_iff.1 h
        obtain ⟨p, hp, h₂⟩ := Option.bind_eq_some_iff.1 h₁
        obtain ⟨ss, h₃, rfl⟩ := Option.map_eq_some_iff.1 h₂
        obtain ⟨-, rfl⟩ := offset?_eq_some_iff.1 hs
        obtain ⟨-, rfl⟩ := size?_eq_some_iff.1 hp
        rw [offsetOf, columnRank, ih h₃ hl]
        push_cast
        ring

/-- **Canonical strides** put an item as many items from the first as its rank says. -/
theorem offsetOf_of_canonical? {order : MemoryOrder} {itemSize : Nat} {shape index : List Nat}
    {strides : List Int} (h : canonical? order itemSize shape = some strides)
    (hl : index.length = shape.length) :
    offsetOf strides index = itemSize * order.rank shape index := by
  cases order with
  | rowMajor =>
    obtain ⟨reversed, hr, rfl⟩ := Option.map_eq_some_iff.1 h
    have hlen : reversed.length = shape.length := by simpa using length_fastestFirst hr
    rw [← offsetOf_reverse (by simp [hl, hlen]), List.reverse_reverse,
      offsetOf_of_fastestFirst hr (by simp [hl]), Shape.columnRank_reverse hl]
    rfl
  | columnMajor => exact offsetOf_of_fastestFirst h hl

end Strides
end MemoryLease
