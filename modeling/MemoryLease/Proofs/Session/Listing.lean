import MemoryLease.Proofs.Session.Tensors
import MemoryLease.Proofs.Tensor.Views

/-!
# Counting and listing the items of a tensor

A new tensor has a count of its items, and a tensor that keeps only every so many positions of an
axis still has one.  Reversing the axes may take the count away, since the extents are multiplied in
order: then there is an extent of zero, and those in front of it multiply to more than a size.  So
every tensor of a session is counted from its first extent on or from its last (`after_countable`),
and it has no count of its own only if it has no items (`tensor_counts_items`).

A tensor that has a count lists its items by an odometer, which is not told how many there are.  It
stops by itself behind the last index, and what it reads is the items of all indexes inside the
shape, each of them once and in lexicographic order (`tensor_lists_items`).
-/

namespace MemoryLease
namespace Tensor

open Shape (Counted InBounds enumerate rowRank)
open Session (Derivation)

variable {t u : Tensor} {m : Memory} {count : Nat}

/-! ### The count -/

/-- A tensor tells the number of its items exactly if its extents can be multiplied one after the
other. -/
theorem length_eq_ok_iff : t.length = .ok count ↔ Counted t.shape ∧ count = t.shape.prod := by
  rw [← Shape.count?_eq_some_iff, Tensor.length]
  cases Shape.count? t.shape <;> simp

/-- A tensor faults when it is asked for the number of its items if its extents cannot be
multiplied. -/
theorem length_of_not_counted (uncounted : ¬ Counted t.shape) :
    t.length = .error .itemCountTooLarge := by
  rw [Tensor.length, Shape.count?_eq_none_iff.2 uncounted]

/-- The items are counted from the first extent on or from the last. -/
def Countable (t : Tensor) : Prop := Counted t.shape ∨ Counted t.shape.reverse

/-- **Derivations keep a tensor countable**: they make extents smaller or reverse them. -/
theorem Countable.derived {d : Derivation} (h : t.Countable) (hd : d.tensor t = .ok u) :
    u.Countable := by
  cases d with
  | same | readOnly =>
    cases hd
    exact h
  | transpose =>
    cases hd
    refine h.symm.imp_right fun counted => ?_
    rwa [transpose, List.reverse_reverse]
  | step axis every =>
    obtain ⟨positive, extent, stride, hn, -, rfl⟩ := step_eq_ok hd
    obtain ⟨inside, -⟩ := List.getElem?_eq_some_iff.1 hn
    have fewer := ceil_div_le extent positive
    refine h.imp (fun counted => counted.set hn fewer) fun counted => ?_
    rw [reverse_set inside]
    exact counted.set (getElem?_reverse_of_some hn) fewer

/-! ### The list -/

/-- The items are listed in the order of their indexes. -/
theorem Fits.list_of_count (h : t.Fits m) (unpoisoned : m.poisoned = false)
    (counted : t.length = .ok count) :
    ∃ values, t.toList m = .ok values ∧ values.length = count ∧
      (enumerate t.shape).map (t.get m) = values.map .ok ∧
      ∀ index, InBounds t.shape index →
        ∃ x, values[rowRank t.shape index]? = some x ∧ t.get m index = .ok x := by
  obtain ⟨leading, rfl⟩ := length_eq_ok_iff.1 counted
  refine ⟨_, h.toList_eq unpoisoned (Shape.count?_eq_some_iff.2 ⟨leading, rfl⟩), ?_, ?_,
    fun index hb => ⟨t.item m index, ?_, h.get_eq unpoisoned hb⟩⟩
  · rw [List.length_map, Shape.length_enumerate]
  · rw [List.map_map]
    exact List.map_congr_left fun index hm => h.get_eq unpoisoned (Shape.mem_enumerate_iff.1 hm)
  · rw [List.getElem?_map, Shape.getElem?_enumerate hb, Option.map_some]

end Tensor

namespace Session

open Shape (Counted InBounds enumerate rowRank)

variable {s s' : Session} {t : Step} {es : List Event} {name : String} {u : Tensor} {count : Nat}

/-! ### Whole runs -/

/-- Every tensor of a session is countable. -/
def Countable (s : Session) : Prop :=
  ∀ name u, (name, Value.source (.tensor u)) ∈ s.values → u.Countable

/-- The tensors of a session without any are countable. -/
theorem countable_empty : Countable {} := fun _ _ h => absurd h List.not_mem_nil

/-- **Every move leaves the tensors countable.** -/
theorem Move.countable (m : Move s t es s') (h : s.Countable) : s'.Countable := by
  intro name u hu
  rcases m.tensor_cases hu with ⟨origin, derivation, u', hm, made⟩ | ⟨-, counted⟩
  · exact (h origin u' hm).derived made
  · exact .inl counted

/-- No session ever has a tensor that is not countable. -/
theorem after_countable (hs : s.Sound) (h : s.Countable) (steps : List Step) :
    (s.after steps).Countable :=
  after_keeps (P := Countable) (fun m _ h => m.countable h) hs h steps

/-! ### Counting -/

/-- **A tensor counts its items** if every product of its leading extents is a size.  The count is
the product of the extents, the list of the items can be made, and there is room for it.  Any other
tensor is empty, and was counted before its axes have been reversed; to ask it for the number of its
items, whether it has any, or for the list of them is a fault. -/
theorem tensor_counts_items {steps : List Step}
    (of : (after {} steps).value? name = some (.source (.tensor u))) :
    let m := (after {} steps).store.memory u.memory
    (Counted u.shape →
      u.length = .ok u.shape.prod ∧ u.isEmpty = .ok (u.shape.prod == 0) ∧
      (∃ values, u.toList m = .ok values) ∧
      u.shape.prod * m.item.size ≤ Memory.allocationMax m.item) ∧
    (¬ Counted u.shape →
      0 ∈ u.shape ∧ u.transpose.length = .ok 0 ∧
      u.length = .error .itemCountTooLarge ∧ u.isEmpty = .error .itemCountTooLarge ∧
      u.toList m = .error .itemCountTooLarge) := by
  intro m
  have rests := (after_laid laid_empty steps).rests_of_value? of
  have countable := after_countable sound_empty countable_empty steps name u
    (Names.mem_of_lookup? of)
  constructor
  · intro counted
    have length := Tensor.length_eq_ok_iff.2 ⟨counted, rfl⟩
    obtain ⟨values, list, -⟩ := rests.fits.list_of_count rests.unpoisoned length
    refine ⟨length, ?_, ⟨values, list⟩, rests.fits.room.trans rests.fits.size_le⟩
    rw [Tensor.isEmpty, length]
    rfl
  · intro uncounted
    have length := Tensor.length_of_not_counted uncounted
    have empty : 0 ∈ u.shape := by
      by_contra hz
      exact uncounted (rests.fits.counted hz)
    have reversed : u.transpose.length = .ok 0 := by
      refine Tensor.length_eq_ok_iff.2 ⟨countable.resolve_left uncounted, ?_⟩
      rw [Tensor.transpose, List.prod_reverse, List.prod_eq_zero empty]
    refine ⟨empty, reversed, length, ?_, ?_⟩
    · rw [Tensor.isEmpty, length]
      rfl
    · rw [Tensor.toList, length]

/-- Every other column of a tensor, transposed: there are six items. -/
theorem tensor_counts_items_columns :
    let s := after {} [.create "tensor" (.zeros .uint16 [2, 5] .rowMajor),
      .derive "columns" "tensor" (.step 1 2), .derive "transposed" "columns" .transpose]
    let u : Tensor := { memory := 0, shape := [3, 2], strides := [4, 10] }
    u.length = .ok 6 ∧ u.isEmpty = .ok false ∧
      ∃ values, u.toList (s.store.memory 0) = .ok values := by
  have of : (after {} [.create "tensor" (.zeros .uint16 [2, 5] .rowMajor),
      .derive "columns" "tensor" (.step 1 2), .derive "transposed" "columns" .transpose]).value?
        "transposed" =
    some (.source (.tensor { memory := 0, shape := [3, 2], strides := [4, 10] })) := rfl
  obtain ⟨length, empty, list, -⟩ := (tensor_counts_items of).1 (by decide)
  exact ⟨length, empty, list⟩

/-- Reversing the axes puts the extent of zero last, and no count comes as far. -/
theorem tensor_without_count :
    let s := after {} [.create "tensor" (.zeros .uint8 [0, 2 ^ 63, 2] .columnMajor),
      .derive "transposed" "tensor" .transpose]
    ∃ u, s.value? "transposed" = some (.source (.tensor u)) ∧ u.shape.prod = 0 ∧
      u.length = .error .itemCountTooLarge ∧ u.isEmpty = .error .itemCountTooLarge ∧
      u.toList (s.store.memory u.memory) = .error .itemCountTooLarge :=
  ⟨_, rfl, rfl, rfl, rfl, rfl⟩

/-! ### Listing -/

/-- **A tensor lists its items** if it has a count of them.  The list has an item for each index
inside the shape and no other, each of them once and in lexicographic order, so that the item of an
index stands where the row-major rank of the index says.  The odometer that reads them stops by
itself: however many items it may read, it reads none after the last one. -/
theorem tensor_lists_items {steps : List Step}
    (of : (after {} steps).value? name = some (.source (.tensor u)))
    (counted : u.length = .ok count) :
    let m := (after {} steps).store.memory u.memory
    ∃ values, u.toList m = .ok values ∧ values.length = count ∧
      (enumerate u.shape).map (u.get m) = values.map .ok ∧
      (∀ index, index ∈ enumerate u.shape ↔ InBounds u.shape index) ∧
      (enumerate u.shape).Pairwise (· < ·) ∧
      (∀ index, InBounds u.shape index →
        ∃ x, values[rowRank u.shape index]? = some x ∧ u.get m index = .ok x) ∧
      (0 ∉ u.shape → ∀ bound,
        u.itemsFrom m bound (Shape.origin u.shape) = .ok (values.take bound)) ∧
      (u.shape = [] → ∃ x, values = [x]) ∧ (0 ∈ u.shape → values = []) := by
  intro m
  have rests := (after_laid laid_empty steps).rests_of_value? of
  obtain ⟨values, list, length, gets, ranks⟩ :=
    rests.fits.list_of_count rests.unpoisoned counted
  obtain ⟨leading, rfl⟩ := Tensor.length_eq_ok_iff.1 counted
  refine ⟨values, list, length, gets, fun index => Shape.mem_enumerate_iff,
    Shape.pairwise_enumerate u.shape, ranks, fun hz bound => ?_, fun scalar => ?_, fun empty => ?_⟩
  · have all := rests.fits.toList_eq rests.unpoisoned (Shape.count?_eq_some_iff.2 ⟨leading, rfl⟩)
    obtain rfl := Except.ok.inj (list.symm.trans all)
    exact rests.fits.itemsFrom_eq rests.unpoisoned hz bound
  · rw [scalar] at length
    exact List.length_eq_one_iff.1 length
  · rw [List.prod_eq_zero empty] at length
    exact List.length_eq_zero_iff.1 length

/-- The items of two rows with an extent of one between rows and columns, read column by column. -/
theorem tensor_lists_items_transposed :
    let s := after {} [.create "tensor" (.items .int16 [1, 2, 3, 4, 5, 6] [2, 1, 3] .rowMajor),
      .derive "transposed" "tensor" .transpose]
    let u : Tensor := { memory := 0, shape := [3, 1, 2], strides := [2, 6, 6] }
    ∃ values x, u.toList (s.store.memory 0) = .ok values ∧ values.length = 6 ∧
      values[3]? = some x ∧ u.get (s.store.memory 0) [1, 0, 1] = .ok x := by
  have of : (after {} [.create "tensor" (.items .int16 [1, 2, 3, 4, 5, 6] [2, 1, 3] .rowMajor),
      .derive "transposed" "tensor" .transpose]).value? "transposed" =
    some (.source (.tensor { memory := 0, shape := [3, 1, 2], strides := [2, 6, 6] })) := rfl
  obtain ⟨values, list, length, -, -, -, ranks, -⟩ := tensor_lists_items of rfl
  obtain ⟨x, stands, read⟩ := ranks [1, 0, 1] (by decide)
  exact ⟨values, x, list, length, stands, read⟩

end Session
end MemoryLease
