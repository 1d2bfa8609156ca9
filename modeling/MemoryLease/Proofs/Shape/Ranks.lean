import Mathlib.Algebra.BigOperators.Group.List.Basic
import Mathlib.Data.List.Forall2
import Mathlib.Tactic.Ring
import MemoryLease.Proofs.Shape.Odometer

/-!
# Ranks

The rank of an index is the number of items in front of it when the items are laid out without
gaps, in row-major or in column-major order.  Reversing the dimensions exchanges the two orders: the
column-major rank of a reversed index in a reversed shape is its row-major rank, and the other way
round (`columnRank_reverse`, `rowRank_reverse`).  And the list of the indexes of a shape is in
lexicographic order (`pairwise_enumerate`) and numbers them by their row-major ranks
(`map_rowRank_enumerate`), so each index stands in it where its rank says (`getElem?_enumerate`) and
no two have the same rank (`eq_of_rowRank_eq`).
-/

namespace MemoryLease
namespace Shape

/-- An index is inside a shape exactly if each position is less than its extent. -/
theorem inBounds_iff_forall₂ {shape index : List Nat} :
    InBounds shape index ↔ List.Forall₂ (fun n i => i < n) shape index := by
  induction shape generalizing index with
  | nil => cases index <;> simp [InBounds]
  | cons n ns ih => cases index <;> simp [InBounds, ih]

/-- An index is inside a shape exactly if it is inside backwards. -/
theorem inBounds_reverse {shape index : List Nat} :
    InBounds shape.reverse index.reverse ↔ InBounds shape index := by
  rw [inBounds_iff_forall₂, inBounds_iff_forall₂, List.forall₂_reverse_iff]

/-- A shape with an index inside has no extent of zero. -/
theorem InBounds.zero_not_mem {shape index : List Nat} (h : InBounds shape index) : 0 ∉ shape := by
  induction shape generalizing index with
  | nil => simp
  | cons n ns ih =>
    cases index with
    | nil => exact h.elim
    | cons i is =>
      have hn : 0 ≠ n := by have := h.1; omega
      simp [hn, ih h.2]

/-- The first index is inside a shape without an extent of zero. -/
theorem inBounds_origin {shape : List Nat} (h : 0 ∉ shape) : InBounds shape (origin shape) := by
  obtain ⟨rest, hc⟩ := enumerate_eq_origin_cons h
  have hm : origin shape ∈ enumerate shape := hc ▸ List.mem_cons_self
  exact mem_enumerate_iff.1 hm

/-- There are as many indexes as the extents multiply to. -/
theorem length_enumerate (shape : List Nat) : (enumerate shape).length = shape.prod := by
  induction shape with
  | nil => rfl
  | cons n ns ih =>
    have h : ∀ l : List Nat, (l.flatMap fun i => (enumerate ns).map (i :: ·)).length =
        l.length * (enumerate ns).length := by
      intro l
      induction l with
      | nil => simp
      | cons i l ih => simp [ih, Nat.succ_mul, Nat.add_comm]
    rw [enumerate, h, List.length_range, ih, List.prod_cons]

/-- The number of items in front of an index in row-major order. -/
def rowRank : List Nat → List Nat → Nat
  | _ :: ns, i :: is => i * ns.prod + rowRank ns is
  | _, _ => 0

/-- The number of items in front of an index in column-major order. -/
def columnRank : List Nat → List Nat → Nat
  | n :: ns, i :: is => i + n * columnRank ns is
  | _, _ => 0

example : rowRank [2, 3] [1, 2] = 5 ∧ columnRank [2, 3] [1, 2] = 5 ∧ rowRank [2, 3] [0, 1] = 1 ∧
    columnRank [2, 3] [0, 1] = 2 := by decide

/-- Nothing comes before the origin. -/
theorem columnRank_origin (shape : List Nat) : columnRank shape (origin shape) = 0 := by
  induction shape with
  | nil => rfl
  | cons n ns ih =>
    show 0 + n * columnRank ns (origin ns) = 0
    rw [ih, Nat.mul_zero]

/-- The rank of an index counts the slower positions in whole blocks of the faster ones. -/
theorem columnRank_append {ns ms is js : List Nat} (h : is.length = ns.length) :
    columnRank (ns ++ ms) (is ++ js) = columnRank ns is + ns.prod * columnRank ms js := by
  induction ns generalizing is with
  | nil =>
    obtain rfl := List.length_eq_zero_iff.1 h
    simp [columnRank]
  | cons n ns ih =>
    cases is with
    | nil => simp at h
    | cons i is =>
      simp only [List.cons_append, columnRank, List.prod_cons, ih (Nat.succ.inj h)]
      ring

/-- **Reversing the dimensions exchanges the orders.** -/
theorem columnRank_reverse {shape index : List Nat} (h : index.length = shape.length) :
    columnRank shape.reverse index.reverse = rowRank shape index := by
  induction shape generalizing index with
  | nil =>
    obtain rfl := List.length_eq_zero_iff.1 h
    rfl
  | cons n ns ih =>
    cases index with
    | nil => simp at h
    | cons i is =>
      have hl : is.length = ns.length := Nat.succ.inj h
      rw [List.reverse_cons, List.reverse_cons, columnRank_append (by simp [hl]), ih hl]
      simp only [columnRank, rowRank, List.prod_reverse]
      ring

/-- Row-major order backwards is column-major order. -/
theorem rowRank_reverse {shape index : List Nat} (h : index.length = shape.length) :
    rowRank shape.reverse index.reverse = columnRank shape index := by
  rw [← columnRank_reverse (by simp [h]), List.reverse_reverse, List.reverse_reverse]

/-- No index comes behind the last item. -/
theorem rowRank_lt {shape index : List Nat} (h : InBounds shape index) :
    rowRank shape index < shape.prod := by
  induction shape generalizing index with
  | nil => cases index <;> simp [rowRank]
  | cons n ns ih =>
    cases index with
    | nil => exact h.elim
    | cons i is =>
      have hr := ih h.2
      have hm : (i + 1) * ns.prod ≤ n * ns.prod := Nat.mul_le_mul_right _ h.1
      rw [Nat.succ_mul] at hm
      simp only [rowRank, List.prod_cons]
      omega

/-- Blocks of equal length, one after the other, are numbered through. -/
theorem flatMap_range_add (n size : Nat) :
    (List.range n).flatMap (fun i => (List.range size).map (i * size + ·)) =
      List.range (n * size) := by
  induction n with
  | zero => simp
  | succ n ih =>
    rw [List.range_succ, List.flatMap_append, ih, Nat.succ_mul, List.range_add]
    simp

/-- **The lexicographic list numbers the indexes** by their row-major ranks. -/
theorem map_rowRank_enumerate (shape : List Nat) :
    (enumerate shape).map (rowRank shape) = List.range shape.prod := by
  induction shape with
  | nil => rfl
  | cons n ns ih =>
    have hb : ∀ i, ((enumerate ns).map (i :: ·)).map (rowRank (n :: ns)) =
        (List.range ns.prod).map (i * ns.prod + ·) := by
      intro i
      rw [← ih, List.map_map, List.map_map]
      rfl
    rw [enumerate, List.map_flatMap, List.prod_cons, ← flatMap_range_add]
    simp only [hb]

/-- Each index stands in the list where its rank says. -/
theorem getElem?_enumerate {shape index : List Nat} (h : InBounds shape index) :
    (enumerate shape)[rowRank shape index]? = some index := by
  obtain ⟨k, hk⟩ := List.mem_iff_getElem?.1 (mem_enumerate_iff.2 h)
  have numbered := congrArg (·[k]?) (map_rowRank_enumerate shape)
  simp only [List.getElem?_map, hk, Option.map_some] at numbered
  obtain ⟨_, same⟩ := List.getElem?_eq_some_iff.1 numbered.symm
  rw [List.getElem_range] at same
  rw [← same, hk]

/-- A list that holds what an index is mapped to where the rank of the index says is what the list
of the indexes is mapped to. -/
theorem map_enumerate_eq {α : Type} {f : List Nat → α} {l : List α} {shape : List Nat}
    (length : l.length = shape.prod)
    (h : ∀ index, InBounds shape index → l[rowRank shape index]? = some (f index)) :
    (enumerate shape).map f = l := by
  apply List.ext_getElem
  · rw [List.length_map, length_enumerate, length]
  · intro k h₁ h₂
    have inside : k < (enumerate shape).length := by simpa using h₁
    have hb : InBounds shape (enumerate shape)[k] :=
      mem_enumerate_iff.1 (List.getElem_mem inside)
    have rank : rowRank shape (enumerate shape)[k] = k := by
      have numbered := congrArg (·[k]?) (map_rowRank_enumerate shape)
      simpa [inside, length ▸ h₂] using numbered
    have listed := h _ hb
    rw [rank, List.getElem?_eq_getElem h₂] at listed
    rw [List.getElem_map]
    exact (Option.some.inj listed).symm

/-- No two indexes of a shape have the same rank. -/
theorem eq_of_rowRank_eq {shape index other : List Nat} (hi : InBounds shape index)
    (ho : InBounds shape other) (h : rowRank shape index = rowRank shape other) :
    index = other := by
  have there := getElem?_enumerate hi
  rw [h, getElem?_enumerate ho] at there
  exact (Option.some.inj there).symm

/-- **The list is in lexicographic order**, so no index stands in it twice. -/
theorem pairwise_enumerate (shape : List Nat) : (enumerate shape).Pairwise (· < ·) := by
  induction shape with
  | nil => exact List.pairwise_singleton _ _
  | cons n ns ih =>
    rw [enumerate, List.pairwise_flatMap]
    constructor
    · intro i _
      exact List.pairwise_map.2 (ih.imp List.Lex.cons)
    · refine List.pairwise_lt_range.imp fun {i j} hij index hi other ho => ?_
      obtain ⟨is, -, rfl⟩ := List.mem_map.1 hi
      obtain ⟨js, -, rfl⟩ := List.mem_map.1 ho
      exact List.Lex.rel hij

end Shape
end MemoryLease
