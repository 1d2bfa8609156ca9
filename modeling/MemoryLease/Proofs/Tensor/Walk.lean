import MemoryLease.Proofs.Memory.Items
import MemoryLease.Proofs.Negotiation.Addressing
import MemoryLease.Proofs.Shape.Odometer
import MemoryLease.Proofs.Tensor.Fits
import MemoryLease.Session.Holds

/-!
# Two ways to read a tensor

A tensor reads its items itself, index by index, as its odometer goes (`Tensor.toList`).  Foreign
code that has a view of the tensor and nothing else reads the memory where the view says
(`Session.walked`).  In a memory that the tensor fits into, both find the item of every index in the
same place (`Fits.get_eq`, `Fits.peek_eq`), and both go through the indexes in lexicographic order,
so they read the same items (`Fits.toList_eq`, `Fits.walked_eq`).
-/

namespace MemoryLease
namespace Tensor

open Shape (InBounds enumerate)
open Strides (Forward offsetOf)

variable {t : Tensor} {m : Memory} {index : List Nat}

/-- The item of an index, where the strides find it. -/
def item (t : Tensor) (m : Memory) (index : List Nat) : Int :=
  m.item.decode (m.block.slice (offsetOf t.strides index).toNat m.item.size)

/-! ### One item -/

/-- Where the item of an index lies, formed dimension by dimension without overflow. -/
theorem placeFrom_eq {total : Int} {shape index : List Nat} {strides : List Int}
    (hf : Forward strides) (hl : strides.length = shape.length) (hb : InBounds shape index)
    (h₀ : 0 ≤ total) (hm : total + offsetOf strides index ≤ offsetMax) :
    placeFrom total shape strides index = .ok (total + offsetOf strides index) := by
  induction shape generalizing total strides index with
  | nil =>
    obtain rfl := List.length_eq_zero_iff.1 hl
    simp [placeFrom, offsetOf]
  | cons n ns ih =>
    cases strides with
    | nil => simp at hl
    | cons s ss =>
      cases index with
      | nil => exact hb.elim
      | cons i is =>
        obtain ⟨hi, hb⟩ := hb
        have hs : 0 < s := hf s (by simp)
        have hf' : Forward ss := fun s hs => hf s (List.mem_cons_of_mem _ hs)
        have hr := Strides.offsetOf_nonneg hf' is
        have hi₀ := Int.natCast_nonneg i
        have hle : (i : Int) ≤ i * s := by
          have := Int.mul_le_mul_of_nonneg_left (Int.add_one_le_of_lt hs) hi₀
          rwa [Int.zero_add, Int.mul_one] at this
        simp only [offsetOf] at hm
        have hp : offset? (i * s) = some (i * s) := by
          rw [offset?_eq_some_iff]
          unfold offsetMin offsetMax at *
          omega
        have ht : offset? (total + i * s) = some (total + i * s) := by
          rw [offset?_eq_some_iff]
          unfold offsetMin offsetMax at *
          omega
        rw [placeFrom, if_neg (by omega), if_neg (by omega), hp]
        simp only [ht]
        rw [ih hf' (Nat.succ.inj hl) hb (by omega) (by omega), offsetOf, Int.add_assoc]

namespace Fits

/-- Every index inside the shape has a place, which is where the strides say. -/
theorem place_eq (h : t.Fits m) (hb : InBounds t.shape index) :
    t.place index = .ok (offsetOf t.strides index).toNat := by
  obtain ⟨h₀, h₁⟩ := h.within hb
  have hm : 0 + offsetOf t.strides index ≤ offsetMax := by
    have hs := h.size_le
    have := m.item.size_pos
    unfold Memory.allocationMax at hs
    unfold offsetMax
    omega
  have hp := placeFrom_eq (h.forward hb.zero_not_mem) h.strides_length hb (Int.le_refl 0) hm
  obtain ⟨n, hn⟩ := Int.eq_ofNat_of_zero_le h₀
  rw [place, if_neg (by simpa [dimensions] using hb.length_eq), hp, Int.zero_add, hn]
  rfl

/-- The bytes of an item inside the shape lie within the memory. -/
theorem slice?_eq (h : t.Fits m) (hb : InBounds t.shape index) :
    m.block.slice? (offsetOf t.strides index).toNat m.item.size =
      some (m.block.slice (offsetOf t.strides index).toNat m.item.size) := by
  obtain ⟨h₀, h₁⟩ := h.within hb
  have hs : m.size = m.block.size := rfl
  exact Block.slice?_of_le (by omega)

/-- The tensor reads the item of an index where the strides find it. -/
theorem get_eq_readItem (h : t.Fits m) (hb : InBounds t.shape index) :
    t.get m index = m.readItem m.item (offsetOf t.strides index).toNat := by
  simp only [Tensor.get, h.place_eq hb]

/-- An item inside the shape is read, unless the lock is poisoned. -/
theorem get_eq (h : t.Fits m) (hp : m.poisoned = false) (hb : InBounds t.shape index) :
    t.get m index = .ok (t.item m index) := by
  obtain ⟨forward, inside⟩ := h.within hb
  rw [h.get_eq_readItem hb]
  exact Memory.readItem_of_inside hp (by omega)

/-- Foreign code reads the item of an index there as well. -/
theorem peek_eq (h : t.Fits m) (hb : InBounds t.shape index) :
    m.peek m.item (offsetOf t.strides index) = some (t.item m index) := by
  obtain ⟨n, hn⟩ := Int.eq_ofNat_of_zero_le (h.within hb).1
  have hs := h.slice?_eq hb
  rw [hn, Int.toNat_natCast] at hs
  rw [item, hn, Int.toNat_natCast]
  change (m.block.slice? n m.item.size).map m.item.decode = _
  rw [hs]
  rfl

end Fits

/-! ### All items -/

/-- The items that are read along a run of the odometer, as far as their number is bounded. -/
theorem itemsFrom_eq {f : List Nat → Int} {l : List (List Nat)}
    (hr : Shape.Runs t.shape (index :: l))
    (hg : ∀ i ∈ index :: l, t.get m i = .ok (f i)) (bound : Nat) :
    t.itemsFrom m bound index = .ok (((index :: l).map f).take bound) := by
  induction l generalizing index bound with
  | nil =>
    cases bound with
    | zero => rfl
    | succ bound =>
      have hn : Shape.next? t.shape index = none := hr
      rw [itemsFrom, hg index (by simp)]
      simp only [hn]
      simp
  | cons other l ih =>
    cases bound with
    | zero => rfl
    | succ bound =>
      have hn : Shape.next? t.shape index = some other := hr.1
      have hrest := ih hr.2 (fun i hi => hg i (List.mem_cons_of_mem _ hi)) bound
      rw [itemsFrom, hg index (by simp)]
      simp only [hn, hrest]
      rfl

/-- **The odometer stops by itself.**  It reads the items in lexicographic order, and however many
it may read, it reads none after the last one. -/
theorem Fits.itemsFrom_eq (h : t.Fits m) (hp : m.poisoned = false) (hz : 0 ∉ t.shape)
    (bound : Nat) : t.itemsFrom m bound (Shape.origin t.shape) =
      .ok (((enumerate t.shape).map (t.item m)).take bound) := by
  obtain ⟨rest, he⟩ := Shape.enumerate_eq_origin_cons hz
  have hr := Shape.runs_enumerate hz
  rw [he] at hr ⊢
  refine Tensor.itemsFrom_eq hr (fun i hi => h.get_eq hp ?_) bound
  rw [← he] at hi
  exact Shape.mem_enumerate_iff.1 hi

/-- **The tensor reads its items** in lexicographic order. -/
theorem Fits.toList_eq (h : t.Fits m) (hp : m.poisoned = false)
    (hc : Shape.count? t.shape = some t.shape.prod) :
    t.toList m = .ok ((enumerate t.shape).map (t.item m)) := by
  simp only [toList, Tensor.length, hc]
  by_cases hz : 0 ∈ t.shape
  · rw [← Shape.length_enumerate, Shape.enumerate_eq_nil_of_zero_mem hz]
    rfl
  · have all : ((enumerate t.shape).map (t.item m)).length ≤ t.shape.prod := by
      rw [List.length_map, Shape.length_enumerate]
    rw [h.itemsFrom_eq hp hz, List.take_of_length_le all]

/-! ### The view of a tensor -/

/-- The region of a tensor is well formed, and has the shape and the strides of the tensor. -/
theorem region_eq_ok {r : Region} (h : t.region m = .ok r) :
    r.WellFormed ∧ r.base = m.base t.memory ∧ r.itemSize = m.item.size ∧ r.shape = t.shape ∧
      r.strides = t.strides := by
  obtain ⟨plain, hp, rfl⟩ := map_eq_ok_iff.1 h
  obtain ⟨hl, length, hb, rfl⟩ := Region.strided_eq_ok hp
  exact ⟨⟨hl, hb, fun _ h => by cases h⟩, rfl, rfl, rfl, rfl⟩

/-- If each item of a list is found, the list of them is. -/
theorem mapM_eq_some_map {α β : Type} {f : α → Option β} {g : α → β} {l : List α}
    (h : ∀ a ∈ l, f a = some (g a)) : l.mapM f = some (l.map g) := by
  induction l with
  | nil => rfl
  | cons a l ih =>
    rw [List.mapM_cons, h a (by simp), ih fun b hb => h b (List.mem_cons_of_mem _ hb)]
    rfl

/-- **Foreign code reads the items of a tensor** in lexicographic order, from a view of it alone. -/
theorem Fits.walked_eq (h : t.Fits m) {r : Region} {c : Contract} {v : MemoryView}
    (hr : t.region m = .ok r) (hv : r.negotiate c = .ok v) :
    Session.walked m v = some ((enumerate t.shape).map (t.item m)) := by
  obtain ⟨wf, -, hi, hs, ht⟩ := region_eq_ok hr
  have ho : v.itemOffsets = (enumerate t.shape).map (offsetOf t.strides) := by
    have hf : r.offsetOf = offsetOf t.strides := by
      funext index
      rw [Region.offsetOf, ht]
    rw [wf.itemOffsets_view hv (hi ▸ m.item.size_pos), hs, hf]
  rw [Session.walked, ho, List.mapM_map]
  exact mapM_eq_some_map fun index hm => h.peek_eq (Shape.mem_enumerate_iff.1 hm)

end Tensor
end MemoryLease
