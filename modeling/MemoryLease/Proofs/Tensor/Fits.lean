import MemoryLease.Proofs.Lending.Account
import MemoryLease.Proofs.Shape.Count
import MemoryLease.Proofs.Strides.Reach
import MemoryLease.Tensor.Items

/-!
# Tensors lie within their memory

A new tensor lies in its memory without gaps, and every further handle shows some of its items.  So
all items of a tensor lie within its memory, which is what `Tensor.Fits` says by the place of the
last one.  Then no step of forming a place can overflow (`Fits.place_eq`), and every item of an
index inside the shape can be read where the strides say (`Fits.get_eq`).
-/

namespace MemoryLease

/-- The largest allocation is an offset. -/
theorem Memory.allocationMax_le_offsetMax (item : ItemType) :
    (allocationMax item : Int) ≤ offsetMax := by
  have := item.size_pos
  unfold allocationMax offsetMax
  omega

namespace Tensor

open Shape (InBounds last)
open Strides (Forward offsetOf)

/-- The items of a tensor lie within a memory. -/
structure Fits (t : Tensor) (m : Memory) : Prop where
  strides_length : t.strides.length = t.shape.length
  spans : Strides.Spanned t.shape t.strides
  forward : 0 ∉ t.shape → Forward t.strides
  reach : 0 ∉ t.shape → offsetOf t.strides (last t.shape) + m.item.size ≤ m.size
  room : t.shape.prod * m.item.size ≤ m.size
  size_le : m.size ≤ Memory.allocationMax m.item

variable {t t' : Tensor} {m m' : Memory} {index : List Nat}

namespace Fits

/-- A tensor fits as long as its memory stays in place. -/
theorem inPlace (h : t.Fits m) (hp : m.InPlace m') : t.Fits m' := by
  refine ⟨h.strides_length, h.spans, h.forward, ?_, ?_, ?_⟩
  · rw [hp.item, hp.size]
    exact h.reach
  · rw [hp.item, hp.size]
    exact h.room
  · rw [hp.item, hp.size]
    exact h.size_le

/-- **Every item lies within the memory.** -/
theorem within (h : t.Fits m) (hb : InBounds t.shape index) :
    0 ≤ offsetOf t.strides index ∧ offsetOf t.strides index + m.item.size ≤ m.size := by
  have hf := h.forward hb.zero_not_mem
  have hr := h.reach hb.zero_not_mem
  have hl := Strides.offsetOf_le_last hf hb
  exact ⟨Strides.offsetOf_nonneg hf index, by omega⟩

/-- The items of a tensor that fits take no more bytes than an offset can tell. -/
theorem bytes_le_offsetMax (h : t.Fits m) :
    ((t.shape.prod * m.item.size : Nat) : Int) ≤ offsetMax := by
  have room := Nat.le_trans h.room h.size_le
  have most := Memory.allocationMax_le_offsetMax m.item
  omega

/-- The length of the items of a tensor that fits is a size. -/
theorem bytes_le (h : t.Fits m) : t.shape.prod * m.item.size ≤ sizeMax :=
  Nat.le_trans h.room (Memory.le_sizeMax_of_fits h.size_le)

/-- The items of a tensor are counted if there are any. -/
theorem counted (h : t.Fits m) (hz : 0 ∉ t.shape) : Shape.Counted t.shape :=
  Shape.counted_of_le hz (Nat.le_trans (Nat.le_mul_of_pos_right _ m.item.size_pos) h.bytes_le)

end Fits

/-! ### New tensors -/

/-- A tensor that is laid out has the shape it was asked for, and canonical strides. -/
theorem layOut_eq_ok {memory : Nat} {item : ItemType} {shape : List Nat} {order : MemoryOrder}
    (h : layOut memory item shape order = .ok t) : t.memory = memory ∧ t.shape = shape ∧
      Strides.canonical? order item.size shape = some t.strides := by
  unfold layOut at h
  split at h
  · rename_i strides hs
    obtain rfl := Except.ok.inj h
    exact ⟨rfl, rfl, hs⟩
  · cases h

/-- Positive extents are laid out in either order if an offset counts their bytes. -/
theorem layOut_of_le {item : ItemType} {shape : List Nat} (positive : 0 ∉ shape)
    (room : ((shape.prod * item.size : Nat) : Int) ≤ offsetMax) (memory : Nat)
    (order : MemoryOrder) : layOut memory item shape order =
      .ok { memory, shape, strides := order.strides item.size shape } := by
  rw [Nat.mul_comm] at room
  rw [layOut, Strides.canonical?_of_le positive room]

/-- **A tensor fits into its memory** if it is laid out in one that has just room for its items. -/
theorem fits_of_layOut {memory : Nat} {shape : List Nat} {order : MemoryOrder}
    (h : layOut memory m.item shape order = .ok t) (hm : m.Fresh)
    (hs : m.size = shape.prod * m.item.size) : t.Fits m := by
  obtain ⟨-, rfl, hc⟩ := layOut_eq_ok h
  have room : ((m.item.size * t.shape.prod : Nat) : Int) ≤ offsetMax := by
    have allocated := hm.size_le
    have most := Memory.allocationMax_le_offsetMax m.item
    rw [Nat.mul_comm]
    omega
  refine ⟨Strides.length_canonical? hc, Strides.spanned_of_canonical? hc room,
    Strides.forward_of_canonical? hc m.item.size_pos, fun hz => ?_, hs.ge, hm.size_le⟩
  rw [hs]
  exact Strides.offsetOf_last_of_canonical? hc hz

/-- When there is a tensor of zeros, and which. -/
theorem zeros_eq_ok_iff {memory : Nat} {item : ItemType} {shape : List Nat} {order : MemoryOrder} :
    zeros memory item shape order = .ok (m, t) ↔
      ∃ size, Shape.byteLength? item.size shape = some size ∧ Memory.zeroed item size = .ok m ∧
        layOut memory item shape order = .ok t := by
  constructor
  · intro h
    unfold zeros at h
    split at h
    · cases h
    · rename_i size length
      split at h
      · cases h
      · rename_i made hm
        obtain ⟨laid, hl, he⟩ := map_eq_ok_iff.1 h
        cases he
        exact ⟨size, length, hm, hl⟩
  · rintro ⟨size, length, made, laid⟩
    rw [zeros, length]
    simp only [made, laid]
    rfl

/-- A tensor of zeros lies in a fresh memory that has just room for its items. -/
theorem zeros_eq_ok {memory : Nat} {item : ItemType} {shape : List Nat} {order : MemoryOrder}
    (h : zeros memory item shape order = .ok (m, t)) :
    m.Fresh ∧ m.item = item ∧ m.size = shape.prod * item.size ∧ Shape.Counted shape ∧
      layOut memory m.item shape order = .ok t := by
  obtain ⟨size, length, made, laid⟩ := zeros_eq_ok_iff.1 h
  obtain ⟨fresh, rfl, rfl⟩ := Memory.zeroed_eq_ok made
  have counted := (Shape.count?_eq_some_iff.1 (Shape.count?_of_byteLength? length)).1
  exact ⟨fresh, rfl, (Shape.byteLength?_eq_some length).1, counted, laid⟩

/-- **A tensor of zeros** fits into the memory that is made for it, and its items are counted. -/
theorem fits_of_zeros {memory : Nat} {item : ItemType} {shape : List Nat} {order : MemoryOrder}
    (h : zeros memory item shape order = .ok (m, t)) :
    m.Fresh ∧ t.memory = memory ∧ t.Fits m ∧ Shape.Counted t.shape := by
  obtain ⟨fresh, rfl, size, counted, laid⟩ := zeros_eq_ok h
  obtain ⟨within, rfl, -⟩ := layOut_eq_ok laid
  exact ⟨fresh, within, fits_of_layOut laid fresh size, counted⟩

/-- The bytes of some items are those of each of them, one after the other. -/
theorem length_flatMap_encode (item : ItemType) (values : List Int) :
    (values.flatMap item.encode).length = values.length * item.size := by
  induction values with
  | nil => simp
  | cons value values ih =>
    rw [List.flatMap_cons, List.length_append, ih, ItemType.length_encode, List.length_cons,
      Nat.succ_mul, Nat.add_comm]

/-- When there is a tensor of given items, and which. -/
theorem ofItems_eq_ok_iff {memory : Nat} {item : ItemType} {values : List Int} {shape : List Nat}
    {order : MemoryOrder} :
    ofItems memory item values shape order = .ok (m, t) ↔
      Shape.count? shape = some values.length ∧
        Memory.ofBytes item (values.flatMap item.encode) = .ok m ∧
        layOut memory item shape order = .ok t := by
  constructor
  · intro h
    unfold ofItems at h
    split at h
    · cases h
    · rename_i agrees
      split at h
      · cases h
      · rename_i made hm
        obtain ⟨laid, hl, he⟩ := map_eq_ok_iff.1 h
        cases he
        exact ⟨not_not.1 agrees, hm, hl⟩
  · rintro ⟨count, made, laid⟩
    rw [ofItems, if_neg (not_not.2 count), made, laid]
    rfl

/-- A tensor of given items lies in a fresh memory that has just room for them. -/
theorem ofItems_eq_ok {memory : Nat} {item : ItemType} {values : List Int} {shape : List Nat}
    {order : MemoryOrder} (h : ofItems memory item values shape order = .ok (m, t)) :
    m.Fresh ∧ m.item = item ∧ m.size = shape.prod * item.size ∧ Shape.Counted shape ∧
      layOut memory m.item shape order = .ok t := by
  obtain ⟨agrees, made, laid⟩ := ofItems_eq_ok_iff.1 h
  obtain ⟨counted, count⟩ := Shape.count?_eq_some_iff.1 agrees
  obtain ⟨fresh, rfl, size⟩ := Memory.ofBytes_eq_ok made
  rw [length_flatMap_encode, count] at size
  exact ⟨fresh, rfl, size, counted, laid⟩

/-- **A tensor of given items** fits into the memory that is made for it, and its items are
counted. -/
theorem fits_of_ofItems {memory : Nat} {item : ItemType} {values : List Int} {shape : List Nat}
    {order : MemoryOrder} (h : ofItems memory item values shape order = .ok (m, t)) :
    m.Fresh ∧ t.memory = memory ∧ t.Fits m ∧ Shape.Counted t.shape := by
  obtain ⟨fresh, rfl, size, counted, laid⟩ := ofItems_eq_ok h
  obtain ⟨within, rfl, -⟩ := layOut_eq_ok laid
  exact ⟨fresh, within, fits_of_layOut laid fresh size, counted⟩

/-- **What comes of writing an item through a tensor**: nothing, or it is written at its place,
through a handle that may write. -/
theorem set_cases (t : Tensor) (m : Memory) (index : List Nat) (value : Int) :
    (∃ failure, t.set m index value = (m, .error failure)) ∨
      t.readOnly = false ∧ ∃ offset m', t.place index = .ok offset ∧
        m.writeItem m.item offset value = (m', .ok ()) ∧ t.set m index value = (m', .ok ()) := by
  unfold set
  split
  · exact .inl ⟨_, rfl⟩
  · rename_i access
    cases place : t.place index with
    | error fault => exact .inl ⟨_, rfl⟩
    | ok offset =>
      dsimp only
      have outcome := m.writing offset (m.item.encode value)
      cases written : m.writeItem m.item offset value with
      | mk m' result =>
        rw [show m.write offset (m.item.encode value) = (m', result) from written] at outcome
        cases outcome with
        | kept => exact .inl ⟨_, rfl⟩
        | written => exact .inr ⟨by simpa using access, offset, _, rfl, written, rfl⟩

/-- An item that is written through a tensor is written at its place, and not through a handle for
reading. -/
theorem set_eq_ok {m' : Memory} {index : List Nat} {value : Int}
    (h : t.set m index value = (m', .ok ())) :
    t.readOnly = false ∧
      ∃ offset, t.place index = .ok offset ∧ m.writeItem m.item offset value = (m', .ok ()) := by
  rcases t.set_cases m index value with ⟨failure, failed⟩ | ⟨access, offset, _, place, written, set⟩
  · cases h.symm.trans failed
  · cases h.symm.trans set
    exact ⟨access, offset, place, written⟩

/-- A tensor that fails to write an item leaves the memory as it has been. -/
theorem set_of_failed {index : List Nat} {value : Int} {failure : Failure}
    (failed : (t.set m index value).2 = .error failure) :
    t.set m index value = (m, .error failure) := by
  rcases t.set_cases m index value with ⟨other, kept⟩ | ⟨-, offset, m', -, -, set⟩
  · rw [kept] at failed ⊢
    rw [← Except.error.inj failed]
  · rw [set] at failed
    cases failed

/-! ### Further handles -/

/-- When there is a handle to every so many items along an axis, and which: it has fewer of them,
further apart. -/
theorem step_eq_ok_iff {axis every : Nat} :
    t.step axis every = .ok t' ↔
      0 < every ∧ (every : Int) ≤ offsetMax ∧ ∃ extent stride, t.shape[axis]? = some extent ∧
        t.strides[axis]? = some stride ∧
        (offsetMin ≤ stride * every ∧ stride * every ≤ offsetMax) ∧
        t' = { t with
          shape := t.shape.set axis ((extent + every - 1) / every)
          strides := t.strides.set axis (stride * every) } := by
  constructor
  · intro h
    unfold step at h
    split at h
    · cases h
    · rename_i positive
      split at h
      · rename_i extent stride hn hs
        split at h
        · cases h
        · rename_i small
          split at h
          · cases h
          · rename_i product hp
            obtain ⟨range, rfl⟩ := offset?_eq_some_iff.1 hp
            exact ⟨Nat.pos_of_ne_zero positive, Int.not_lt.1 small, extent, stride, hn, hs, range,
              (Except.ok.inj h).symm⟩
      · cases h
  · rintro ⟨positive, small, extent, stride, hn, hs, range, rfl⟩
    have product : offset? (stride * every) = some (stride * every) :=
      offset?_eq_some_iff.2 ⟨range, rfl⟩
    rw [step, if_neg (Nat.ne_of_gt positive), hn, hs]
    simp only [if_neg (Int.not_lt.2 small), product]

/-- A step that goes well makes one extent smaller, rounded up, and its stride as many times larger.
-/
theorem step_eq_ok {axis every : Nat} (h : t.step axis every = .ok t') :
    0 < every ∧ ∃ extent stride, t.shape[axis]? = some extent ∧ t.strides[axis]? = some stride ∧
      t' = { t with
        shape := t.shape.set axis ((extent + every - 1) / every)
        strides := t.strides.set axis (stride * every) } := by
  obtain ⟨positive, -, extent, stride, hn, hs, -, he⟩ := step_eq_ok_iff.1 h
  exact ⟨positive, extent, stride, hn, hs, he⟩

/-- A step leads to a tensor in the same memory. -/
theorem memory_of_step {axis every : Nat} (h : t.step axis every = .ok t') :
    t'.memory = t.memory := by
  obtain ⟨-, extent, stride, -, -, rfl⟩ := step_eq_ok h
  rfl

/-- If no extent is zero after one has been replaced, none was before. -/
theorem zero_not_mem_of_set {shape : List Nat} {axis extent extent' : Nat}
    (hn : shape[axis]? = some extent) (h : 0 ∉ shape.set axis extent')
    (he : extent = 0 → extent' = 0) : 0 ∉ shape ∧ extent' ≠ 0 := by
  obtain ⟨hlt, -⟩ := List.getElem?_eq_some_iff.1 hn
  have hne : extent' ≠ 0 := by
    rintro rfl
    exact h (List.mem_set hlt 0)
  refine ⟨fun hz => ?_, hne⟩
  obtain ⟨i, hi⟩ := List.mem_iff_getElem?.1 hz
  by_cases e : axis = i
  · subst e
    exact hne (he (Option.some.inj (hn.symm.trans hi)))
  · exact h (List.mem_iff_getElem?.2 ⟨i, by rw [List.getElem?_set_ne e, hi]⟩)

/-- No more than all positions of an axis are kept. -/
theorem ceil_div_le (extent : Nat) {every : Nat} (h : 0 < every) :
    (extent + every - 1) / every ≤ extent := by
  rcases Nat.eq_zero_or_pos extent with rfl | hp
  · rw [Nat.div_eq_of_lt (by omega)]
  · rw [← Nat.lt_succ_iff, Nat.div_lt_iff_lt_mul h]
    have := Nat.mul_le_mul_left extent h
    rw [Nat.succ_mul]
    omega

namespace Fits

/-- **Every so many items along an axis** still fit. -/
theorem step {axis every : Nat} (h : t.Fits m) (hs : t.step axis every = .ok t') : t'.Fits m := by
  obtain ⟨hk, extent, stride, hn, hst, rfl⟩ := step_eq_ok hs
  have shorter : (extent + every - 1) / every ≤ extent := ceil_div_le extent hk
  have empty : extent = 0 → (extent + every - 1) / every = 0 := by
    rintro rfl
    exact Nat.le_zero.1 shorter
  have hmem : stride ∈ t.strides := List.mem_iff_getElem?.2 ⟨axis, hst⟩
  obtain ⟨nonneg, -⟩ := h.spans axis extent stride hn hst
  -- the last position that is kept lies at most at the last position of the axis
  have hq : ((extent + every - 1) / every).pred * every ≤ extent.pred := by
    have := Nat.div_mul_le_self (extent + every - 1) every
    rw [Nat.pred_eq_sub_one, Nat.pred_eq_sub_one, Nat.sub_mul]
    omega
  have hle : (((extent + every - 1) / every).pred : Int) * (stride * every) ≤
      extent.pred * stride := by
    rw [Int.mul_comm stride, ← Int.mul_assoc]
    exact Int.mul_le_mul_of_nonneg_right (by exact_mod_cast hq) nonneg
  refine ⟨by simp [h.strides_length],
    h.spans.set hn hst (Int.mul_nonneg nonneg (Int.natCast_nonneg every)) hle,
    fun hz => ?_, fun hz => ?_,
    (Nat.mul_le_mul_right _ (Shape.prod_set_le hn shorter)).trans h.room, h.size_le⟩
  · obtain ⟨hz, -⟩ := zero_not_mem_of_set hn hz empty
    have hf := h.forward hz
    exact Strides.forward_set hf (Int.mul_pos (hf stride hmem) (Int.natCast_pos.2 hk)) axis
  · obtain ⟨hz, hne⟩ := zero_not_mem_of_set hn hz empty
    have hr := h.reach hz
    have := Strides.offsetOf_last_set_le hn hst hle
    simp only
    omega

/-- A tensor that fits still does when its axes are reversed. -/
theorem transpose (h : t.Fits m) : t.transpose.Fits m := by
  refine ⟨by simp [Tensor.transpose, h.strides_length], h.spans.reverse h.strides_length,
    fun hz stride hm => ?_, fun hz => ?_, by simpa [Tensor.transpose] using h.room, h.size_le⟩
  · exact h.forward (by simpa [Tensor.transpose] using hz) stride
      (by simpa [Tensor.transpose] using hm)
  · have hl : last t.shape.reverse = (last t.shape).reverse := List.map_reverse
    simp only [Tensor.transpose, hl]
    rw [Strides.offsetOf_reverse (by simp [last, h.strides_length])]
    exact h.reach (by simpa [Tensor.transpose] using hz)

/-- A tensor that fits still does when it is for reading only. -/
theorem asReadOnly (h : t.Fits m) : t.asReadOnly.Fits m :=
  ⟨h.strides_length, h.spans, h.forward, h.reach, h.room, h.size_le⟩

end Fits
end Tensor
end MemoryLease
