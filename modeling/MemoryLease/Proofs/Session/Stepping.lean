import MemoryLease.Proofs.Session.Tensors

/-!
# Steps that a tensor takes

A handle to every so many positions of an axis has a stride of its own, the old one times the step,
and there is none where the step or that stride is not an offset.  The stride is formed even where
no second position is left that it would lead to, and only there can it be too large: between the
first and the last position of an axis all offsets are offsets of the memory
(`Tensor.Fits.extent_le_of_overflow`).  So a step that leaves two positions or more of a tensor with
items always makes a handle, and one that leaves a single position may fault
(`Session.step_outcome`).
-/

namespace MemoryLease
namespace Tensor

open Session (Derivation)
open Shape (InBounds)

variable {t u : Tensor} {m : Memory} {axis extent every : Nat} {stride : Int}

/-- No more than one position is left of an axis by a step that is not shorter than it. -/
theorem ceil_div_le_one (positive : 0 < every) (h : extent ≤ every) :
    (extent + every - 1) / every ≤ 1 := by
  rw [← Nat.lt_succ_iff, Nat.div_lt_iff_lt_mul positive]
  omega

namespace Fits

/-- An axis that a tensor has comes with an extent and a stride. -/
theorem exists_axis (h : t.Fits m) (inside : axis < t.dimensions) :
    ∃ extent stride, t.shape[axis]? = some extent ∧ t.strides[axis]? = some stride :=
  ⟨_, _, List.getElem?_eq_getElem inside,
    List.getElem?_eq_getElem (h.strides_length ▸ inside : axis < t.strides.length)⟩

/-- An extent of a tensor with items is an offset, since its items are allocated. -/
theorem extent_le (h : t.Fits m) (hz : 0 ∉ t.shape) (hn : t.shape[axis]? = some extent) :
    (extent : Int) ≤ offsetMax := by
  have items : extent ≤ t.shape.prod :=
    Nat.le_of_dvd (Nat.pos_of_ne_zero (List.prod_ne_zero hz))
      (List.dvd_prod (List.mem_of_getElem? hn))
  have bytes : t.shape.prod ≤ t.shape.prod * m.item.size :=
    Nat.le_mul_of_pos_right _ m.item.size_pos
  have offset := h.bytes_le_offsetMax
  omega

/-- **A stride that a step makes too large leads past the last position of its axis.** -/
theorem extent_le_of_overflow (h : t.Fits m) (hn : t.shape[axis]? = some extent)
    (hs : t.strides[axis]? = some stride) (overflow : offsetMax < stride * every) :
    extent ≤ every := by
  obtain ⟨forward, reach⟩ := h.spans axis extent stride hn hs
  by_contra more
  have further : (every : Int) ≤ extent.pred := by
    exact_mod_cast Nat.le_pred_of_lt (Nat.lt_of_not_le more)
  have := Int.mul_le_mul_of_nonneg_right further forward
  rw [Int.mul_comm] at this
  omega

/-- A step along an axis of a tensor has one of three outcomes. -/
theorem step_cases (h : t.Fits m) (hn : t.shape[axis]? = some extent)
    (hs : t.strides[axis]? = some stride) (positive : 0 < every) :
    (offsetMax < every ∧ t.step axis every = .error .stepTooLarge) ∨
    ((every : Int) ≤ offsetMax ∧ offsetMax < stride * every ∧
      t.step axis every = .error .strideOverflow) ∨
    ((every : Int) ≤ offsetMax ∧ stride * every ≤ offsetMax ∧ ∃ v, t.step axis every = .ok v) := by
  rcases lt_or_ge offsetMax (every : Int) with large | small
  · refine .inl ⟨large, ?_⟩
    rw [Tensor.step, if_neg positive.ne', hn, hs]
    exact if_pos large
  rcases lt_or_ge offsetMax (stride * every) with overflow | fits
  · refine .inr (.inl ⟨small, overflow, ?_⟩)
    rw [Tensor.step, if_neg positive.ne', hn, hs]
    simp only [if_neg (Int.not_lt.2 small), offset?_eq_none_iff.2 (.inr overflow)]
  · refine .inr (.inr ⟨small, fits, _, step_eq_ok_iff.2 ⟨positive, small, extent, stride, hn, hs,
      ⟨?_, fits⟩, rfl⟩⟩)
    have forward := Int.mul_nonneg (h.spans axis extent stride hn hs).1 (Int.natCast_nonneg every)
    exact Int.le_trans (by decide) forward

/-- **What a step shows**: the axis has as many positions as multiples of the step, and the item of
an index is the one at the multiple of its position. -/
theorem described_of_step (h : t.Fits m) (unpoisoned : m.poisoned = false)
    (made : t.step axis every = .ok u) (hn : t.shape[axis]? = some extent) :
    u.memory = t.memory ∧ u.readOnly = t.readOnly ∧
      u.shape = t.shape.set axis ((extent + every - 1) / every) ∧
      ∀ index, (InBounds u.shape index ↔ InBounds t.shape (index.modify axis (· * every))) ∧
        (InBounds u.shape index → ∃ x, u.get m index = .ok x ∧
          t.get m (index.modify axis (· * every)) = .ok x) := by
  have fits := h.step made
  have shows := shows_step made
  obtain ⟨positive, extent', stride, hn', -, rfl⟩ := step_eq_ok made
  obtain rfl : extent = extent' := Option.some.inj (hn.symm.trans hn')
  refine ⟨rfl, rfl, rfl, fun index => ⟨Shape.inBounds_modify_iff hn positive, fun hb => ?_⟩⟩
  refine ⟨_, fits.get_eq unpoisoned hb, ?_⟩
  rw [shows.item_eq hb]
  exact h.get_eq unpoisoned (shows.inBounds index hb)

end Fits
end Tensor

namespace Session

open Shape (InBounds)

variable {name : String} {u : Tensor} {axis every : Nat}

/-- **When a step makes a handle, and what the handle shows.**  Whatever chain of handles a tensor
comes from, a positive step along one of its axes makes a handle exactly if the step and the new
stride are offsets, and faults otherwise.  The handle has as many positions along the axis as there
are multiples of the step, the other extents stay, and the item of an index is the one at the
multiple of its position.  The stride is too large only if it is never used, since no second
position is left; a step that leaves one in a tensor with items always makes a handle. -/
theorem step_outcome {steps : List Step}
    (of : (after {} steps).value? name = some (.source (.tensor u))) (inside : axis < u.dimensions)
    (positive : 0 < every) :
    let m := (after {} steps).store.memory u.memory
    ∃ extent stride, u.shape[axis]? = some extent ∧ u.strides[axis]? = some stride ∧
      ((∃ v, u.step axis every = .ok v) ↔
        (every : Int) ≤ offsetMax ∧ stride * every ≤ offsetMax) ∧
      (u.step axis every = .error .stepTooLarge ↔ offsetMax < every) ∧
      (u.step axis every = .error .strideOverflow ↔
        (every : Int) ≤ offsetMax ∧ offsetMax < stride * every) ∧
      (offsetMax < stride * every → (extent + every - 1) / every ≤ 1) ∧
      (0 ∉ u.shape → every < extent → ∃ v, u.step axis every = .ok v) ∧
      ∀ v, u.step axis every = .ok v → v.memory = u.memory ∧ v.readOnly = u.readOnly ∧
        v.shape = u.shape.set axis ((extent + every - 1) / every) ∧
        ∀ index, (InBounds v.shape index ↔ InBounds u.shape (index.modify axis (· * every))) ∧
          (InBounds v.shape index → ∃ x, v.get m index = .ok x ∧
            u.get m (index.modify axis (· * every)) = .ok x) := by
  obtain ⟨fits, unpoisoned, -, -⟩ := (after_laid laid_empty steps).rests_of_value? of
  obtain ⟨extent, stride, hn, hs⟩ := fits.exists_axis inside
  have unused : offsetMax < stride * every → extent ≤ every := fits.extent_le_of_overflow hn hs
  have single : offsetMax < stride * every → (extent + every - 1) / every ≤ 1 := fun overflow =>
    Tensor.ceil_div_le_one positive (unused overflow)
  intro m
  refine ⟨extent, stride, hn, hs, ?_⟩
  rcases fits.step_cases hn hs positive with ⟨large, failed⟩ | ⟨small, overflow, failed⟩ |
    ⟨small, fit, v, made⟩
  · rw [failed]
    refine ⟨⟨nofun, by omega⟩, ⟨fun _ => large, fun _ => rfl⟩, ⟨nofun, by omega⟩, single,
      fun hz more => ?_, nofun⟩
    have := fits.extent_le hz hn
    omega
  · rw [failed]
    refine ⟨⟨nofun, by omega⟩, ⟨nofun, by omega⟩, ⟨fun _ => ⟨small, overflow⟩, fun _ => rfl⟩,
      single, fun _ more => ?_, nofun⟩
    exact absurd (unused overflow) (Nat.not_le.2 more)
  · rw [made]
    refine ⟨⟨fun _ => ⟨small, fit⟩, fun _ => ⟨v, rfl⟩⟩, ⟨nofun, by omega⟩, ⟨nofun, by omega⟩,
      single, fun _ _ => ⟨v, rfl⟩, ?_⟩
    rintro _ ⟨⟩
    exact fits.described_of_step unpoisoned made hn

/-- Every other position of the longer axis of a transposed tensor. -/
theorem step_outcome_transposed :
    let s := Session.after {} [.create "tensor" (.zeros .uint16 [2, 5] .rowMajor),
      .derive "transposed" "tensor" .transpose]
    let u : Tensor := { memory := 0, shape := [5, 2], strides := [2, 10] }
    s.value? "transposed" = some (.source (.tensor u)) ∧
      ∃ v x, u.step 0 2 = .ok v ∧ v.shape = [3, 2] ∧
        v.get (s.store.memory 0) [2, 1] = .ok x ∧ u.get (s.store.memory 0) [4, 1] = .ok x := by
  intro s u
  have of : s.value? "transposed" = some (.source (.tensor u)) := rfl
  have inside : 0 < u.dimensions := by decide
  have positive : 0 < 2 := by decide
  obtain ⟨extent, stride, hn, hs, returns, -, -, -, -, described⟩ :=
    step_outcome of inside positive
  obtain rfl := Option.some.inj hn
  obtain rfl := Option.some.inj hs
  obtain ⟨v, made⟩ := returns.2 (by decide)
  obtain ⟨-, -, shape, items⟩ := described v made
  have last : InBounds v.shape [2, 1] := by
    rw [shape]
    decide
  obtain ⟨x, read, original⟩ := (items [2, 1]).2 last
  exact ⟨of, v, x, made, shape, read, original⟩

/-- A stride that nothing would use is too large: of four positions every `2 ^ 60`-th is one, but
the stride to the next one is not an offset. -/
theorem step_overflows_unused_stride :
    ∃ u, (Session.after {} [.create "tensor" (.zeros .float64 [4] .rowMajor)]).value? "tensor" =
        some (.source (.tensor u)) ∧
      0 < u.dimensions ∧ 2 ^ 60 ≤ sizeMax ∧ (4 + 2 ^ 60 - 1) / 2 ^ 60 = 1 ∧
      u.step 0 (2 ^ 60) = .error .strideOverflow :=
  ⟨{ memory := 0, shape := [4], strides := [8] }, rfl, by decide, by decide, by decide, by decide⟩

end Session
end MemoryLease
