import MemoryLease.Proofs.Tensor.Reindexing

/-!
# Reading what has been written

A tensor writes an item where it reads it.  In a new tensor no two items share a byte
(`Tensor.apart_of_layOut`), since their ranks are different.  So whatever handle an item is written
through, every handle that shows the items of one tensor reads the new value at the indexes that
stand for the same item, and reads all other items as before (`Tensor.get_after_set`).
-/

namespace MemoryLease
namespace Tensor

open Shape (InBounds)
open Strides (offsetOf)

variable {t u root : Tensor} {m m' : Memory} {index other : List Nat} {value : Int}

/-! ### Items apart from each other -/

/-- Items of a size share no byte. -/
def Apart (t : Tensor) (size : Nat) : Prop :=
  ∀ index other, InBounds t.shape index → InBounds t.shape other → index ≠ other →
    offsetOf t.strides index + size ≤ offsetOf t.strides other ∨
      offsetOf t.strides other + size ≤ offsetOf t.strides index

/-- **The items of a new tensor** share no byte. -/
theorem apart_of_layOut {memory : Nat} {item : ItemType} {shape : List Nat} {order : MemoryOrder}
    (h : layOut memory item shape order = .ok t) : t.Apart item.size := by
  obtain ⟨-, rfl, canonical⟩ := layOut_eq_ok h
  -- what comes first in the order ends before what comes later starts
  have first : ∀ index other, InBounds t.shape index → InBounds t.shape other →
      order.rank t.shape index < order.rank t.shape other →
      offsetOf t.strides index + item.size ≤ offsetOf t.strides other := by
    intro index other hi ho hlt
    rw [Strides.offsetOf_of_canonical? canonical hi.length_eq,
      Strides.offsetOf_of_canonical? canonical ho.length_eq]
    have next := Nat.mul_le_mul_left item.size (Nat.succ_le_of_lt hlt)
    rw [Nat.mul_succ] at next
    exact_mod_cast next
  intro index other hi ho ne
  rcases Nat.lt_trichotomy (order.rank t.shape index) (order.rank t.shape other) with
    hlt | same | hlt
  · exact .inl (first index other hi ho hlt)
  · exact absurd (Shape.eq_of_rank_eq hi ho same) ne
  · exact .inr (first other index ho hi hlt)

/-! ### Writing an item -/

/-- An index that has a place is inside the shape. -/
theorem inBounds_of_placeFrom {total offset : Int} {shape : List Nat} {strides : List Int}
    (hs : strides.length = shape.length) (hi : index.length = shape.length)
    (h : placeFrom total shape strides index = .ok offset) : InBounds shape index := by
  induction shape generalizing total strides index with
  | nil =>
    obtain rfl := List.length_eq_zero_iff.1 hi
    trivial
  | cons n ns ih =>
    cases strides with
    | nil => simp at hs
    | cons s ss =>
      cases index with
      | nil => simp at hi
      | cons i is =>
        rw [placeFrom] at h
        split at h
        · cases h
        · rename_i inside
          split at h
          · cases h
          · split at h
            · cases h
            · split at h
              · cases h
              · exact ⟨Nat.lt_of_not_le inside, ih (Nat.succ.inj hs) (Nat.succ.inj hi) h⟩

/-- Only an index inside the shape has a place. -/
theorem inBounds_of_place {offset : Nat} (hs : t.strides.length = t.shape.length)
    (h : t.place index = .ok offset) : InBounds t.shape index := by
  unfold place at h
  split at h
  · cases h
  · rename_i hi
    split at h
    · cases h
    · rename_i hp
      exact inBounds_of_placeFrom hs (not_not.1 hi) hp
    · cases h

/-- An item that has been written is inside the shape, and is written where it stands. -/
theorem Fits.set_eq_ok (h : t.Fits m) (hs : t.set m index value = (m', .ok ())) :
    InBounds t.shape index ∧
      m.writeItem m.item (offsetOf t.strides index).toNat value = (m', .ok ()) := by
  obtain ⟨-, offset, hp, written⟩ := Tensor.set_eq_ok hs
  have hb := inBounds_of_place h.strides_length hp
  rw [h.place_eq hb] at hp
  obtain rfl := Except.ok.inj hp
  exact ⟨hb, written⟩

/-- **Reading after writing.**  An item is written through one handle and read through another, and
both show items of one tensor whose items share no byte. -/
theorem get_after_set {written read : List Nat → List Nat} (ht : t.Fits m) (hu : u.Fits m)
    (writer : t.Shows root written) (reader : u.Shows root read) (apart : root.Apart m.item.size)
    (holds : m.item.Holds value) (hs : t.set m index value = (m', .ok ()))
    (hb : InBounds u.shape other) :
    u.get m' other = if read other = written index then .ok value else u.get m other := by
  obtain ⟨hi, set⟩ := ht.set_eq_ok hs
  obtain ⟨stores, outside⟩ := Memory.of_writeItem set
  have place := outside.inPlace
  rw [(hu.inPlace place).get_eq_readItem hb, hu.get_eq_readItem hb, place.item]
  by_cases same : read other = written index
  · have offset : offsetOf u.strides other = offsetOf t.strides index := by
      rw [reader.offsetOf other hb, same, writer.offsetOf index hi]
    have unpoisoned : m'.poisoned = false := place.poisoned.trans (Memory.write_eq_ok set).1
    rw [if_pos same, offset]
    exact Memory.readItem_eq_ok_iff.2 ⟨unpoisoned, holds, stores⟩
  · have between := apart _ _ (writer.inBounds index hi) (reader.inBounds other hb) (Ne.symm same)
    rw [← writer.offsetOf index hi, ← reader.offsetOf other hb] at between
    have hw := (ht.within hi).1
    have hr := (hu.within hb).1
    rw [if_neg same]
    exact outside.readItem (by omega)

end Tensor
end MemoryLease
