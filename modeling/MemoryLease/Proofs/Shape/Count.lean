import Mathlib.Algebra.BigOperators.Ring.List
import Mathlib.Algebra.GroupWithZero.Nat
import Mathlib.Data.List.TakeWhile
import MemoryLease.Shape

/-!
# The number of items of a shape

`Shape.count?` multiplies the extents from the first on and gives up as soon as a product is not a
size.  So a shape has a count exactly if every product of leading extents is a size
(`Shape.Counted`), and the count is the product of all of them then (`count?_eq_some_iff`).  Without
an extent of zero it is enough that the whole product is a size (`counted_of_le`).  An extent of
zero makes the whole product zero but helps only those products that it is part of: the extents in
front of the first zero have to multiply to a size all the same (`counted_iff_leading`).  So where
they do not (`Shape.ZeroInTime`), the order of the extents matters, and whether a shape is counted
may change when it is reversed.
-/

namespace MemoryLease
namespace Shape

/-- Every product of leading extents is a size. -/
def Counted (shape : List Nat) : Prop := ∀ k, (shape.take k).prod ≤ sizeMax

/-- A product is continued over further extents as long as it stays a size. -/
theorem countFrom_eq_some_iff {count n : Nat} {shape : List Nat} (hc : count ≤ sizeMax) :
    countFrom count shape = some n ↔
      (∀ k, count * (shape.take k).prod ≤ sizeMax) ∧ n = count * shape.prod := by
  induction shape generalizing count with
  | nil => simp [countFrom, hc, eq_comm]
  | cons m ms ih =>
    constructor
    · intro h
      obtain ⟨product, hp, hr⟩ := Option.bind_eq_some_iff.1 h
      obtain ⟨hle, rfl⟩ := size?_eq_some_iff.1 hp
      obtain ⟨leading, rfl⟩ := (ih hle).1 hr
      refine ⟨fun k => ?_, by rw [List.prod_cons, Nat.mul_assoc]⟩
      cases k with
      | zero => simpa using hc
      | succ k => simpa only [List.take_succ_cons, List.prod_cons, Nat.mul_assoc] using leading k
    · rintro ⟨leading, rfl⟩
      have first : count * m ≤ sizeMax := by simpa using leading 1
      have rest : ∀ k, count * m * (ms.take k).prod ≤ sizeMax := by
        intro k
        simpa only [List.take_succ_cons, List.prod_cons, Nat.mul_assoc] using leading (k + 1)
      rw [countFrom, size?_eq_some_iff.2 ⟨first, rfl⟩, Option.bind_some]
      exact (ih first).2 ⟨rest, by rw [List.prod_cons, Nat.mul_assoc]⟩

/-- **When a shape has a count**, and which. -/
theorem count?_eq_some_iff {n : Nat} {shape : List Nat} :
    count? shape = some n ↔ Counted shape ∧ n = shape.prod := by
  have h := @countFrom_eq_some_iff 1 n shape (by decide)
  simp only [Nat.one_mul] at h
  exact h

/-- A shape has no count exactly if its extents cannot be multiplied one after the other. -/
theorem count?_eq_none_iff {shape : List Nat} : count? shape = none ↔ ¬ Counted shape := by
  rw [Option.eq_none_iff_forall_ne_some]
  constructor
  · intro none counted
    exact none _ (count?_eq_some_iff.2 ⟨counted, rfl⟩)
  · intro uncounted n h
    exact uncounted (count?_eq_some_iff.1 h).1

instance (shape : List Nat) : Decidable (Counted shape) :=
  decidable_of_iff (count? shape ≠ none) (not_iff_comm.1 count?_eq_none_iff.symm)

/-- The count of a shape is the product of its extents. -/
theorem count?_eq_some {n : Nat} {shape : List Nat} (h : count? shape = some n) :
    n = shape.prod :=
  (count?_eq_some_iff.1 h).2

/-! ### Which shapes are counted -/

/-- The extents in front of the first extent of zero. -/
def leading (shape : List Nat) : List Nat := shape.takeWhile (· ≠ 0)

/-- All extents of a shape are leading ones unless one of them is zero. -/
theorem leading_eq_self {shape : List Nat} (hz : 0 ∉ shape) : leading shape = shape := by
  refine List.takeWhile_eq_self_iff.2 fun n hn => decide_eq_true ?_
  rintro rfl
  exact hz hn

/-- No leading extent is zero. -/
theorem prod_leading_pos (shape : List Nat) : 0 < (leading shape).prod := by
  refine Nat.pos_of_ne_zero (List.prod_ne_zero fun hm => ?_)
  simpa using List.mem_takeWhile_imp hm

/-- **The extents in front of the first zero decide** whether a shape is counted: behind it every
product is zero. -/
theorem counted_iff_leading {shape : List Nat} :
    Counted shape ↔ (leading shape).prod ≤ sizeMax := by
  constructor
  · intro counted
    have taken : shape.take (leading shape).length = leading shape :=
      (List.prefix_iff_eq_take.1 (List.takeWhile_prefix _)).symm
    have front := counted (leading shape).length
    rwa [taken] at front
  · intro small k
    by_cases hz : 0 ∈ shape.take k
    · rw [List.prod_eq_zero hz]
      exact Nat.zero_le _
    · -- without a zero among them, the first `k` extents are some of the leading ones
      have nonzero := List.takeWhile_eq_self_iff.1 (leading_eq_self hz)
      have front : leading shape = shape.take k ++ leading (shape.drop k) := by
        conv_lhs => rw [← List.take_append_drop k shape]
        exact List.takeWhile_append_of_pos nonzero
      rw [front, List.prod_append] at small
      exact Nat.le_trans (Nat.le_mul_of_pos_right _ (prod_leading_pos _)) small

/-- An extent of zero, if there is one, is met before the product outgrows a size. -/
def ZeroInTime (shape : List Nat) : Prop := 0 ∈ shape → (leading shape).prod ≤ sizeMax

/-- A shape without an extent of zero has none that comes too late. -/
theorem zeroInTime_of_not_mem {shape : List Nat} (hz : 0 ∉ shape) : ZeroInTime shape :=
  fun hm => absurd hm hz

/-- A shape is counted if its product is a size, unless an extent of zero comes too late. -/
theorem counted_iff {shape : List Nat} :
    Counted shape ↔ ZeroInTime shape ∧ shape.prod ≤ sizeMax := by
  rw [counted_iff_leading]
  by_cases hz : 0 ∈ shape
  · have empty : shape.prod ≤ sizeMax := by
      rw [List.prod_eq_zero hz]
      exact Nat.zero_le _
    exact ⟨fun front => ⟨fun _ => front, empty⟩, fun h => h.1 hz⟩
  · rw [leading_eq_self hz]
    exact ⟨fun small => ⟨zeroInTime_of_not_mem hz, small⟩, And.right⟩

/-- Without an extent of zero no product on the way is larger than the last one. -/
theorem counted_of_le {shape : List Nat} (hz : 0 ∉ shape) (h : shape.prod ≤ sizeMax) :
    Counted shape :=
  counted_iff.2 ⟨zeroInTime_of_not_mem hz, h⟩

/-- The indexes of a shape without an extent of zero are counted if their number is a size. -/
theorem count?_of_le {shape : List Nat} (hz : 0 ∉ shape) (h : shape.prod ≤ sizeMax) :
    count? shape = some shape.prod :=
  count?_eq_some_iff.2 ⟨counted_of_le hz h, rfl⟩

/-- Unless an extent of zero comes too late, the order of the extents does not matter. -/
theorem count?_of_perm {shape other : List Nat} (h : shape.Perm other) (hs : ZeroInTime shape)
    (ho : ZeroInTime other) : count? other = count? shape := by
  refine Option.ext fun n => ?_
  rw [count?_eq_some_iff, count?_eq_some_iff, counted_iff, counted_iff, h.prod_eq]
  simp only [hs, ho]

/-- A smaller extent makes the product no larger. -/
theorem prod_set_le {shape : List Nat} {axis extent extent' : Nat}
    (hn : shape[axis]? = some extent) (h : extent' ≤ extent) :
    (shape.set axis extent').prod ≤ shape.prod := by
  induction shape generalizing axis with
  | nil => simp at hn
  | cons n ns ih =>
    cases axis with
    | zero =>
      obtain rfl : n = extent := by simpa using hn
      rw [List.set_cons_zero, List.prod_cons, List.prod_cons]
      exact Nat.mul_le_mul_right _ h
    | succ axis =>
      rw [List.set_cons_succ, List.prod_cons, List.prod_cons]
      exact Nat.mul_le_mul_left _ (ih (by simpa using hn))

/-- A counted shape stays so with a smaller extent. -/
theorem Counted.set {shape : List Nat} {axis extent extent' : Nat} (counted : Counted shape)
    (hn : shape[axis]? = some extent) (h : extent' ≤ extent) :
    Counted (shape.set axis extent') := by
  intro k
  rcases Nat.lt_or_ge axis k with hlt | hge
  · have leading : (shape.take k)[axis]? = some extent := by
      rw [List.getElem?_take_of_lt hlt, hn]
    rw [List.take_set]
    exact Nat.le_trans (prod_set_le leading h) (counted k)
  · rw [List.take_set_of_le hge]
    exact counted k

example : Counted [0, 2 ^ 63, 2] ∧ ¬ Counted [2, 2 ^ 63, 0] := by decide

/-! ### The number of bytes -/

/-- The length of a region is the product of its extents times the size of an item, and it is a
size. -/
theorem byteLength?_eq_some {itemSize n : Nat} {shape : List Nat}
    (h : byteLength? itemSize shape = some n) : n = shape.prod * itemSize ∧ n ≤ sizeMax := by
  obtain ⟨count, hc, hs⟩ := Option.bind_eq_some_iff.1 h
  obtain ⟨hle, rfl⟩ := size?_eq_some_iff.1 hs
  rw [count?_eq_some hc] at hle ⊢
  exact ⟨rfl, hle⟩

/-- A shape that has a length has a count. -/
theorem count?_of_byteLength? {itemSize n : Nat} {shape : List Nat}
    (h : byteLength? itemSize shape = some n) : count? shape = some shape.prod := by
  obtain ⟨count, hc, -⟩ := Option.bind_eq_some_iff.1 h
  rw [hc, count?_eq_some hc]

/-- When a shape has a length in bytes, and which. -/
theorem byteLength?_eq_some_iff {itemSize n : Nat} {shape : List Nat} :
    byteLength? itemSize shape = some n ↔
      Counted shape ∧ shape.prod * itemSize ≤ sizeMax ∧ n = shape.prod * itemSize := by
  constructor
  · intro h
    obtain ⟨rfl, small⟩ := byteLength?_eq_some h
    exact ⟨(count?_eq_some_iff.1 (count?_of_byteLength? h)).1, small, rfl⟩
  · rintro ⟨counted, small, rfl⟩
    rw [byteLength?, count?_eq_some_iff.2 ⟨counted, rfl⟩, Option.bind_some]
    exact size?_eq_some_iff.2 ⟨small, rfl⟩

/-- The items of a shape have no length exactly if they cannot be counted or take more bytes than a
size can tell. -/
theorem byteLength?_eq_none_iff {itemSize : Nat} {shape : List Nat} :
    byteLength? itemSize shape = none ↔ ¬ Counted shape ∨ sizeMax < shape.prod * itemSize := by
  rw [Option.eq_none_iff_forall_ne_some]
  constructor
  · intro none
    by_contra small
    rw [not_or, not_not, Nat.not_lt] at small
    exact none _ (byteLength?_eq_some_iff.2 ⟨small.1, small.2, rfl⟩)
  · intro large n h
    obtain ⟨counted, small, -⟩ := byteLength?_eq_some_iff.1 h
    exact large.elim (fun uncounted => uncounted counted) (Nat.not_lt.2 small)

/-- Without an extent of zero a shape has a length if the whole product is a size. -/
theorem byteLength?_of_le {itemSize : Nat} {shape : List Nat} (hz : 0 ∉ shape)
    (hp : 0 < itemSize) (h : shape.prod * itemSize ≤ sizeMax) :
    byteLength? itemSize shape = some (shape.prod * itemSize) := by
  have count : shape.prod ≤ sizeMax := Nat.le_trans (Nat.le_mul_of_pos_right _ hp) h
  exact byteLength?_eq_some_iff.2 ⟨counted_of_le hz count, h, rfl⟩

end Shape
end MemoryLease
