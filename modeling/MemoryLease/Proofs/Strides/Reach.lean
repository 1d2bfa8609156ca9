import MemoryLease.Proofs.Strides.Canonical

/-!
# How far strides reach

Where all strides run forwards, no item of a shape lies in front of the one at the first index, and
none lies behind the one at the last index (`offsetOf_le_last`).  So a region fits into a block of
memory as soon as its last item does.  Canonical strides run forwards, and their last item ends
where the last byte is (`offsetOf_last_of_canonical?`).  Taking only every so many items along an
axis does not reach further (`offsetOf_last_set_le`).

A shape with an extent of zero has no last item, and its strides may still be large.  Along each
axis on its own the last position is no further than an offset all the same (`Spanned`): a canonical
stride that is followed by a slower one is a divisor of that one, and the slowest stride is zero
where a faster extent is.
-/

namespace MemoryLease
namespace Shape

/-- The last index of a shape without an extent of zero. -/
def last (shape : List Nat) : List Nat := shape.map Nat.pred

/-- The last index is inside a shape without an extent of zero. -/
theorem inBounds_last {shape : List Nat} (h : 0 ∉ shape) : InBounds shape (last shape) := by
  induction shape with
  | nil => trivial
  | cons n ns ih =>
    rw [List.mem_cons, not_or] at h
    exact ⟨Nat.pred_lt (Ne.symm h.1), ih h.2⟩

/-- In either order, no index comes behind the last item. -/
theorem rank_lt {shape index : List Nat} (h : InBounds shape index) (order : MemoryOrder) :
    order.rank shape index < shape.prod := by
  cases order with
  | rowMajor => exact rowRank_lt h
  | columnMajor =>
    have hr := rowRank_lt (inBounds_reverse.2 h)
    rwa [rowRank_reverse h.length_eq, List.prod_reverse] at hr

/-- No two indexes of a shape have the same rank in an order. -/
theorem eq_of_rank_eq {shape index other : List Nat} {order : MemoryOrder}
    (hi : InBounds shape index) (ho : InBounds shape other)
    (h : order.rank shape index = order.rank shape other) : index = other := by
  cases order with
  | rowMajor => exact eq_of_rowRank_eq hi ho h
  | columnMajor =>
    have hr : columnRank shape index = columnRank shape other := h
    rw [← rowRank_reverse hi.length_eq, ← rowRank_reverse ho.length_eq] at hr
    exact List.reverse_inj.1
      (eq_of_rowRank_eq (inBounds_reverse.2 hi) (inBounds_reverse.2 ho) hr)

end Shape

/-- An entry stands as far from the end when the list is reversed. -/
theorem getElem?_reverse_of_some {α : Type} {l : List α} {i : Nat} {a : α} (h : l[i]? = some a) :
    l.reverse[l.length - 1 - i]? = some a := by
  obtain ⟨inside, -⟩ := List.getElem?_eq_some_iff.1 h
  have place : l.length - 1 - i + i + 1 = l.length := by omega
  exact (List.getElem?_reverse' place).trans h

namespace Strides

open Shape (InBounds last inBounds_last)

/-- All strides run forwards. -/
def Forward (strides : List Int) : Prop := ∀ stride ∈ strides, 0 < stride

/-- Strides forward never lead in front of the start. -/
theorem offsetOf_nonneg {strides : List Int} (h : Forward strides) (index : List Nat) :
    0 ≤ offsetOf strides index := by
  induction strides generalizing index with
  | nil => simp [offsetOf]
  | cons s ss ih =>
    cases index with
    | nil => simp [offsetOf]
    | cons i is =>
      have hs : 0 < s := h s (by simp)
      have hi := ih (fun s hs => h s (List.mem_cons_of_mem _ hs)) is
      have hp : (0 : Int) ≤ i * s := Int.mul_nonneg (Int.natCast_nonneg i) (Int.le_of_lt hs)
      simp only [offsetOf]
      omega

/-- **No item lies behind the last one.** -/
theorem offsetOf_le_last {strides : List Int} {shape index : List Nat} (h : Forward strides)
    (hb : InBounds shape index) : offsetOf strides index ≤ offsetOf strides (last shape) := by
  induction strides generalizing shape index with
  | nil => simp [offsetOf]
  | cons s ss ih =>
    cases shape with
    | nil =>
      cases index with
      | nil => exact Int.le_refl _
      | cons i is => exact hb.elim
    | cons n ns =>
      cases index with
      | nil => exact hb.elim
      | cons i is =>
        have hs : 0 < s := h s (by simp)
        have hi := ih (fun s hs => h s (List.mem_cons_of_mem _ hs)) hb.2
        have hn : (i : Int) ≤ (n.pred : Int) := by exact_mod_cast Nat.le_pred_of_lt hb.1
        have hm := Int.mul_le_mul_of_nonneg_right hn (Int.le_of_lt hs)
        simp only [last, List.map_cons, offsetOf] at hi ⊢
        omega

/-! ### Canonical strides -/

/-- Canonical strides lead forward, since no extent is zero. -/
theorem forward_of_fastestFirst {step : Nat} {shape : List Nat} {strides : List Int}
    (h : fastestFirst step shape = some strides) (hp : 0 < step) (hz : 0 ∉ shape) :
    Forward strides := by
  induction shape generalizing step strides with
  | nil =>
    obtain rfl := Option.some.inj h
    simp [Forward]
  | cons n ns ih =>
    rw [List.mem_cons, not_or] at hz
    cases ns with
    | nil =>
      obtain ⟨s, hs, rfl⟩ := Option.map_eq_some_iff.1 h
      obtain ⟨-, rfl⟩ := offset?_eq_some_iff.1 hs
      simpa [Forward] using hp
    | cons m ms =>
      obtain ⟨s, hs, h₁⟩ := Option.bind_eq_some_iff.1 h
      obtain ⟨p, hs', h₂⟩ := Option.bind_eq_some_iff.1 h₁
      obtain ⟨ss, h₃, rfl⟩ := Option.map_eq_some_iff.1 h₂
      obtain ⟨-, rfl⟩ := offset?_eq_some_iff.1 hs
      obtain ⟨-, rfl⟩ := size?_eq_some_iff.1 hs'
      intro stride hm
      rcases List.mem_cons.1 hm with rfl | hm
      · exact Int.natCast_pos.2 hp
      · exact ih h₃ (Nat.mul_pos hp (Nat.pos_of_ne_zero (Ne.symm hz.1))) hz.2 stride hm

/-- In either order, canonical strides lead forward. -/
theorem forward_of_canonical? {order : MemoryOrder} {itemSize : Nat} {shape : List Nat}
    {strides : List Int} (h : canonical? order itemSize shape = some strides)
    (hp : 0 < itemSize) (hz : 0 ∉ shape) : Forward strides := by
  cases order with
  | rowMajor =>
    obtain ⟨reversed, hr, rfl⟩ := Option.map_eq_some_iff.1 h
    have hf := forward_of_fastestFirst hr hp (by simpa using hz)
    exact fun stride hm => hf stride (List.mem_reverse.1 hm)
  | columnMajor => exact forward_of_fastestFirst h hp hz

/-- Canonical strides put the last item within the bytes that all items take. -/
theorem offsetOf_last_of_canonical? {order : MemoryOrder} {itemSize : Nat} {shape : List Nat}
    {strides : List Int} (h : canonical? order itemSize shape = some strides) (hz : 0 ∉ shape) :
    offsetOf strides (last shape) + itemSize ≤ (shape.prod * itemSize : Nat) := by
  have hb := inBounds_last hz
  have hm : itemSize * (order.rank shape (last shape) + 1) ≤ itemSize * shape.prod :=
    Nat.mul_le_mul_left _ (Shape.rank_lt hb order)
  rw [Nat.mul_succ, Nat.mul_comm itemSize shape.prod] at hm
  rw [offsetOf_of_canonical? h hb.length_eq]
  exact_mod_cast hm

/-! ### One axis at a time -/

/-- No stride runs backwards, and along each axis the last position is no further from the first one
than an offset. -/
def Spanned (shape : List Nat) (strides : List Int) : Prop :=
  ∀ (axis extent : Nat) (stride : Int), shape[axis]? = some extent → strides[axis]? = some stride →
    0 ≤ stride ∧ extent.pred * stride ≤ offsetMax

/-- A shape is spanned by its first dimension and by the others. -/
theorem spanned_cons_iff {n : Nat} {ns : List Nat} {s : Int} {ss : List Int} :
    Spanned (n :: ns) (s :: ss) ↔ (0 ≤ s ∧ n.pred * s ≤ offsetMax) ∧ Spanned ns ss := by
  constructor
  · intro h
    exact ⟨h 0 n s rfl rfl, fun axis => h (axis + 1)⟩
  · rintro ⟨first, rest⟩ axis extent stride hn hs
    cases axis with
    | zero =>
      obtain rfl := Option.some.inj hn
      obtain rfl := Option.some.inj hs
      exact first
    | succ axis => exact rest axis extent stride hn hs

/-- A shape that is spanned is spanned backwards. -/
theorem Spanned.reverse {shape : List Nat} {strides : List Int} (h : Spanned shape strides)
    (hl : strides.length = shape.length) : Spanned shape.reverse strides.reverse := by
  intro axis extent stride hn hs
  have hn' := getElem?_reverse_of_some hn
  have hs' := getElem?_reverse_of_some hs
  rw [List.reverse_reverse, List.length_reverse] at hn' hs'
  rw [hl] at hs'
  exact h _ extent stride hn' hs'

/-- The strides of the dimensions, the fastest first.  The stride behind the slowest dimension need
not be an offset, unless there are items. -/
theorem spanned_columnMajor {step : Nat} {shape : List Nat}
    (fits : MemoryOrder.columnMajor.HasStrides step shape)
    (room : 0 ∉ shape → ((step * shape.prod : Nat) : Int) ≤ offsetMax) :
    Spanned shape (MemoryOrder.columnMajor.strides step shape) := by
  induction shape generalizing step with
  | nil => exact fun axis extent stride hn => nomatch hn
  | cons n ns ih =>
    obtain ⟨-, others⟩ := MemoryOrder.hasStrides_cons_iff.1 fits
    rw [MemoryOrder.strides_cons, spanned_cons_iff]
    have behind : ((n.pred * step : Nat) : Int) ≤ offsetMax := by
      rcases Nat.eq_zero_or_pos n with rfl | hp
      · rw [Nat.pred_zero, Nat.zero_mul]
        decide
      · have shorter : n.pred * step ≤ step * n := by
          rw [Nat.mul_comm]
          exact Nat.mul_le_mul_left step (Nat.pred_le n)
        cases ns with
        | nil =>
          have all := room (by simpa using hp.ne)
          rw [List.prod_singleton] at all
          omega
        | cons m ms =>
          obtain ⟨next, -⟩ := MemoryOrder.hasStrides_cons_iff.1 others
          omega
    refine ⟨⟨Int.natCast_nonneg step, by exact_mod_cast behind⟩, ih others fun hz => ?_⟩
    rcases Nat.eq_zero_or_pos n with rfl | hp
    · rw [Nat.mul_zero, Nat.zero_mul]
      decide
    · rw [Nat.mul_assoc, ← List.prod_cons]
      exact room (by simp [hz, hp.ne])

/-- Along each axis canonical strides reach no further than an offset. -/
theorem spanned_of_canonical? {order : MemoryOrder} {itemSize : Nat} {shape : List Nat}
    {strides : List Int} (h : canonical? order itemSize shape = some strides)
    (room : ((itemSize * shape.prod : Nat) : Int) ≤ offsetMax) : Spanned shape strides := by
  obtain ⟨fits, rfl⟩ := canonical?_eq_some_iff.1 h
  cases order with
  | columnMajor => exact spanned_columnMajor fits fun _ => room
  | rowMajor =>
    have reversed := spanned_columnMajor (MemoryOrder.hasStrides_reverse_iff.2 fits)
      (fun _ => by rwa [List.prod_reverse])
    have back := reversed.reverse (by simp [MemoryOrder.strides])
    rwa [List.reverse_reverse, MemoryOrder.strides_reverse] at back

/-- A shape stays spanned when the span of one dimension becomes shorter. -/
theorem Spanned.set {shape : List Nat} {strides : List Int} (h : Spanned shape strides)
    {axis extent extent' : Nat} {stride stride' : Int} (hn : shape[axis]? = some extent)
    (hs : strides[axis]? = some stride) (forward : 0 ≤ stride')
    (shorter : extent'.pred * stride' ≤ extent.pred * stride) :
    Spanned (shape.set axis extent') (strides.set axis stride') := by
  obtain ⟨-, reach⟩ := h axis extent stride hn hs
  intro other extent₁ stride₁ hn₁ hs₁
  by_cases same : axis = other
  · subst same
    obtain ⟨inside, -⟩ := List.getElem?_eq_some_iff.1 hn
    obtain ⟨inside', -⟩ := List.getElem?_eq_some_iff.1 hs
    rw [List.getElem?_set_self inside] at hn₁
    rw [List.getElem?_set_self inside'] at hs₁
    obtain rfl := Option.some.inj hn₁
    obtain rfl := Option.some.inj hs₁
    exact ⟨forward, Int.le_trans shorter reach⟩
  · rw [List.getElem?_set_ne same] at hn₁ hs₁
    exact h other extent₁ stride₁ hn₁ hs₁

/-! ### Every so many items along an axis -/

/-- One stride may be replaced by another one forward. -/
theorem forward_set {strides : List Int} (h : Forward strides) {stride : Int} (hs : 0 < stride)
    (axis : Nat) : Forward (strides.set axis stride) := by
  intro s hm
  rcases List.mem_or_eq_of_mem_set hm with hm | rfl
  · exact h s hm
  · exact hs

/-- **Where one axis does not reach further, nothing does.** -/
theorem offsetOf_last_set_le {strides : List Int} {shape : List Nat} {axis extent extent' : Nat}
    {stride stride' : Int} (hn : shape[axis]? = some extent) (hs : strides[axis]? = some stride)
    (h : (extent'.pred : Int) * stride' ≤ extent.pred * stride) :
    offsetOf (strides.set axis stride') (last (shape.set axis extent')) ≤
      offsetOf strides (last shape) := by
  induction strides generalizing shape axis with
  | nil => simp at hs
  | cons s ss ih =>
    cases shape with
    | nil => simp at hn
    | cons n ns =>
      cases axis with
      | zero =>
        obtain rfl : n = extent := by simpa using hn
        obtain rfl : s = stride := by simpa using hs
        simp only [List.set_cons_zero, last, List.map_cons, offsetOf]
        omega
      | succ axis =>
        have hi := @ih ns axis (by simpa using hn) (by simpa using hs)
        simp only [List.set_cons_succ, last, List.map_cons, offsetOf] at hi ⊢
        omega

end Strides
end MemoryLease
