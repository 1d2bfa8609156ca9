import Mathlib.Algebra.Order.Floor.Div
import MemoryLease.Proofs.Tensor.Reindexing

/-!
# The algebra of handles

Different chains of derivations make the same handle.  Every so many positions of an axis, and every
so many of those, are every so many at once, since rounding up twice is rounding up once
(`Shape.ceil_div_ceil_div`, `Tensor.step_mul_eq_ok_iff`).  Steps along two axes are made in either
order (`Tensor.derived_step_comm`), and when the axes are reversed, a step goes along with its axis
(`Tensor.derived_step_transpose_iff`).  What is reversed along with the axes is also which of the
two orders the items follow each other in without gaps (`Tensor.isContiguous_transpose`).
-/

namespace MemoryLease

/-! ### Reversing lists -/

/-- An entry that is replaced stands as far from the end when the list is reversed. -/
theorem reverse_set {α : Type} {l : List α} {i : Nat} (hi : i < l.length) (a : α) :
    (l.set i a).reverse = l.reverse.set (l.length - 1 - i) a := by
  apply List.ext_getElem
  · simp
  · intro k h₁ h₂
    have hk : k < l.length := by simpa using h₁
    have place : i = l.length - 1 - k ↔ l.length - 1 - i = k := by omega
    simp only [List.getElem_reverse, List.getElem_set, List.length_set, place]

/-! ### Rounding up -/

/-- Of every so many positions of an axis, every so many are left. -/
theorem Shape.ceil_div_ceil_div (extent : Nat) {first second : Nat} (hf : 0 < first)
    (hs : 0 < second) :
    ((extent + first - 1) / first + second - 1) / second =
      (extent + first * second - 1) / (first * second) := by
  simp only [← Nat.ceilDiv_eq_add_pred_div]
  -- both are the least number of positions whose steps reach over the extent
  refine eq_of_forall_ge_iff fun positions => ?_
  rw [ceilDiv_le_iff_le_mul hs, ceilDiv_le_iff_le_mul hf,
    ceilDiv_le_iff_le_mul (Nat.mul_pos hf hs), Nat.mul_assoc]

namespace Strides

/-- A stride is an offset if a multiple of it is. -/
theorem offset_of_mul {stride : Int} {every : Nat} (positive : 0 < every)
    (h : offsetMin ≤ stride * every ∧ stride * every ≤ offsetMax) :
    offsetMin ≤ stride ∧ stride ≤ offsetMax := by
  have once : (1 : Int) ≤ every := by exact_mod_cast positive
  have bounds : offsetMin < 0 ∧ 0 < offsetMax := by decide
  rcases Int.le_total 0 stride with forward | backward
  · have := Int.mul_le_mul_of_nonneg_left once forward
    omega
  · have := Int.mul_le_mul_of_nonpos_left backward once
    omega

/-- Reversing the dimensions exchanges the orders in which a region is contiguous. -/
theorem isContiguous_reverse {itemSize : Nat} {shape : List Nat} {strides : List Int}
    (hl : strides.length = shape.length) :
    isContiguous .rowMajor itemSize shape.reverse strides.reverse =
      isContiguous .columnMajor itemSize shape strides := by
  simp only [isContiguous, ← reverse_zip hl, List.any_reverse, List.reverse_reverse]

end Strides

namespace Tensor

open Session (Derivation)

variable {t u v : Tensor} {axis other every first second : Nat}

/-- A chain of one derivation is that derivation. -/
theorem derived_singleton_eq_ok_iff {d : Derivation} :
    t.derived [d] = .ok v ↔ d.tensor t = .ok v := by
  rw [derived_cons_eq_ok_iff]
  simp only [derived, Except.ok.injEq, exists_eq_right]

/-- A chain of two derivations is one after the other. -/
theorem derived_pair_eq_ok_iff {d d' : Derivation} :
    t.derived [d, d'] = .ok v ↔ ∃ u, d.tensor t = .ok u ∧ d'.tensor u = .ok v := by
  rw [derived_cons_eq_ok_iff]
  simp only [derived_singleton_eq_ok_iff]

/-! ### Steps -/

/-- What is set at an axis that is there is there. -/
theorem getElem?_set_axis {α : Type} {l : List α} {a b : α} (h : l[axis]? = some a) :
    (l.set axis b)[axis]? = some b := by
  obtain ⟨inside, -⟩ := List.getElem?_eq_some_iff.1 h
  exact List.getElem?_set_self inside

/-- **Steps along one axis multiply.**  Only the product has to be a step in its own right, which
the strides do not tell where there are no items. -/
theorem step_mul_eq_ok_iff :
    t.step axis (first * second) = .ok v ↔
      t.derived [.step axis first, .step axis second] = .ok v ∧
        ((first * second : Nat) : Int) ≤ offsetMax := by
  simp only [derived_pair_eq_ok_iff, Derivation.tensor, step_eq_ok_iff]
  constructor
  · rintro ⟨positive, small, extent, stride, hn, hs, range, rfl⟩
    have hf : 0 < first := Nat.pos_of_mul_pos_right positive
    have hk : 0 < second := Nat.pos_of_mul_pos_left positive
    have small₁ : first ≤ first * second := Nat.le_mul_of_pos_right first hk
    have small₂ : second ≤ first * second := Nat.le_mul_of_pos_left second hf
    rw [Nat.cast_mul, ← Int.mul_assoc] at range
    refine ⟨⟨_, ⟨hf, by omega, extent, stride, hn, hs, Strides.offset_of_mul hk range, rfl⟩, hk,
      by omega, _, _, getElem?_set_axis hn, getElem?_set_axis hs, range, ?_⟩, small⟩
    simp only [List.set_set, Shape.ceil_div_ceil_div extent hf hk, Nat.cast_mul, Int.mul_assoc]
  · rintro ⟨⟨u, ⟨hf, -, extent, stride, hn, hs, -, rfl⟩, hk, -, kept, further, hn', hs', range,
      rfl⟩, small⟩
    obtain rfl := Option.some.inj ((getElem?_set_axis hn).symm.trans hn')
    obtain rfl := Option.some.inj ((getElem?_set_axis hs).symm.trans hs')
    rw [Int.mul_assoc, ← Nat.cast_mul] at range
    refine ⟨Nat.mul_pos hf hk, small, extent, stride, hn, hs, range, ?_⟩
    simp only [List.set_set, Shape.ceil_div_ceil_div extent hf hk, Nat.cast_mul, Int.mul_assoc]

example : let t : Tensor := { memory := 0, shape := [2, 0], strides := [0, 1] }
    t.derived [.step 0 (2 ^ 32), .step 0 (2 ^ 31)] =
      .ok { memory := 0, shape := [1, 0], strides := [0, 1] } ∧
    t.step 0 (2 ^ 32 * 2 ^ 31) = .error .stepTooLarge := ⟨rfl, rfl⟩

/-- A step along one axis does not see one along another. -/
theorem derived_step_of_ne (ne : axis ≠ other)
    (h : t.derived [.step axis first, .step other second] = .ok v) :
    t.derived [.step other second, .step axis first] = .ok v := by
  simp only [derived_pair_eq_ok_iff, Derivation.tensor, step_eq_ok_iff] at h ⊢
  obtain ⟨u, ⟨hf, small, extent, stride, hn, hs, range, rfl⟩, hk, small', extent', stride', hn',
    hs', range', rfl⟩ := h
  simp only [List.getElem?_set_ne ne] at hn' hs'
  refine ⟨_, ⟨hk, small', extent', stride', hn', hs', range', rfl⟩, hf, small, extent, stride, ?_,
    ?_, range, ?_⟩
  · rw [List.getElem?_set_ne ne.symm, hn]
  · rw [List.getElem?_set_ne ne.symm, hs]
  · simp only [List.set_comm _ _ ne]

/-- **Steps along two axes** are made in either order. -/
theorem derived_step_comm (ne : axis ≠ other) :
    t.derived [.step axis first, .step other second] = .ok v ↔
      t.derived [.step other second, .step axis first] = .ok v :=
  ⟨derived_step_of_ne ne, derived_step_of_ne ne.symm⟩

/-! ### Reversing the axes -/

/-- Reversing the axes twice changes nothing. -/
@[simp] theorem transpose_transpose (t : Tensor) : t.transpose.transpose = t := by
  simp only [transpose, List.reverse_reverse]

@[simp] theorem dimensions_transpose (t : Tensor) : t.transpose.dimensions = t.dimensions :=
  List.length_reverse

/-- A step along an axis of a tensor is one along the opposite axis of its transpose. -/
theorem transpose_step (hl : t.strides.length = t.shape.length)
    (h : t.step axis every = .ok u) :
    t.transpose.step (t.dimensions - 1 - axis) every = .ok u.transpose := by
  obtain ⟨positive, small, extent, stride, hn, hs, range, rfl⟩ := step_eq_ok_iff.1 h
  obtain ⟨inside, -⟩ := List.getElem?_eq_some_iff.1 hn
  have last : t.strides.length - 1 - axis = t.dimensions - 1 - axis := by rw [hl, dimensions]
  have hs' : t.transpose.strides[t.dimensions - 1 - axis]? = some stride :=
    last ▸ getElem?_reverse_of_some hs
  refine step_eq_ok_iff.2 ⟨positive, small, extent, stride, getElem?_reverse_of_some hn, hs',
    range, ?_⟩
  simp only [transpose, reverse_set inside, reverse_set (hl ▸ inside), hl, dimensions]

/-- **A step goes along with its axis** when the axes are reversed. -/
theorem derived_step_transpose_iff (hl : t.strides.length = t.shape.length)
    (inside : axis < t.dimensions) :
    t.derived [.step axis every, .transpose] = .ok v ↔
      t.derived [.transpose, .step (t.dimensions - 1 - axis) every] = .ok v := by
  simp only [derived_pair_eq_ok_iff, Derivation.tensor, Except.ok.injEq, exists_eq_left']
  constructor
  · rintro ⟨u, h, rfl⟩
    exact transpose_step hl h
  · intro h
    have back := transpose_step (by simp [transpose, hl]) h
    rw [transpose_transpose, dimensions_transpose,
      show t.dimensions - 1 - (t.dimensions - 1 - axis) = axis by omega] at back
    exact ⟨v.transpose, back, transpose_transpose v⟩

/-- **Reversing the axes exchanges the orders** in which a tensor is contiguous. -/
theorem isContiguous_transpose (hl : t.strides.length = t.shape.length) (item : ItemType) :
    t.transpose.isContiguous item .rowMajor = t.isContiguous item .columnMajor :=
  Strides.isContiguous_reverse hl

end Tensor

end MemoryLease
