import MemoryLease.Limits

/-!
# Shapes and indexes

A shape is the list of the extents of the dimensions, an index a list of positions, one for each
dimension.  An index is inside a shape if it has as many positions and each is smaller than its
extent (`InBounds`).  The indexes inside a shape are listed in lexicographic order, the last
position fastest (`indexes`), and `next?` steps from one to the one after it, as an odometer does.
-/

namespace MemoryLease
namespace Shape

/-! ### The number of items -/

/-- A product continued over further extents, if it is a size after each of them. -/
def countFrom (count : Nat) : List Nat → Option Nat
  | [] => some count
  | n :: ns => (size? (count * n)).bind fun product => countFrom product ns

/-- The number of items of a shape (`item_count`): the product of the extents, taken from the first
on, if it is a size after each extent. -/
def count? (shape : List Nat) : Option Nat := countFrom 1 shape

/-- The number of bytes that the items of a shape take, if the number of items and the number of
bytes are sizes. -/
def byteLength? (itemSize : Nat) (shape : List Nat) : Option Nat :=
  (count? shape).bind fun count => size? (count * itemSize)

/-! ### Indexes -/

/-- An index is inside a shape: one position for each dimension, smaller than its extent. -/
def InBounds : List Nat → List Nat → Prop
  | [], [] => True
  | n :: ns, i :: is => i < n ∧ InBounds ns is
  | _, _ => False

instance InBounds.decidable : (shape index : List Nat) → Decidable (InBounds shape index)
  | [], [] => isTrue trivial
  | n :: ns, i :: is =>
    have := InBounds.decidable ns is
    inferInstanceAs (Decidable (i < n ∧ InBounds ns is))
  | [], _ :: _ => isFalse id
  | _ :: _, [] => isFalse id

/-- An index inside a shape has a position for each extent. -/
theorem InBounds.length_eq {shape index : List Nat} (h : InBounds shape index) :
    index.length = shape.length := by
  induction shape generalizing index with
  | nil =>
    cases index with
    | nil => rfl
    | cons i is => exact h.elim
  | cons n ns ih =>
    cases index with
    | nil => exact h.elim
    | cons i is => simp [ih h.2]

/-- All indexes of a shape in lexicographic order, dimension by dimension. -/
def enumerate : List Nat → List (List Nat)
  | [] => [[]]
  | n :: ns => (List.range n).flatMap fun i => (enumerate ns).map (i :: ·)

/-- All indexes inside a shape, in lexicographic order.  A shape with an extent of zero has none,
however large its other extents are, and they are not counted through to find that out. -/
def indexes (shape : List Nat) : List (List Nat) :=
  if 0 ∈ shape then [] else enumerate shape

/-- A shape with an extent of zero has no index. -/
theorem enumerate_eq_nil_of_zero_mem {shape : List Nat} (h : 0 ∈ shape) : enumerate shape = [] := by
  induction shape with
  | nil => simp at h
  | cons n ns ih =>
    rcases List.mem_cons.1 h with rfl | h
    · rfl
    · simp [enumerate, ih h]

/-- The listed indexes are those inside the shape. -/
theorem mem_enumerate_iff {shape index : List Nat} :
    index ∈ enumerate shape ↔ InBounds shape index := by
  induction shape generalizing index with
  | nil => cases index <;> simp [enumerate, InBounds]
  | cons n ns ih =>
    cases index with
    | nil => simp [enumerate, InBounds]
    | cons i is => simp [enumerate, InBounds, ih]

/-- Telling the empty shapes at sight changes nothing. -/
theorem indexes_eq_enumerate (shape : List Nat) : indexes shape = enumerate shape := by
  unfold indexes
  split
  · rename_i h
    exact (enumerate_eq_nil_of_zero_mem h).symm
  · rfl

/-- The first index of a shape. -/
def origin (shape : List Nat) : List Nat := List.replicate shape.length 0

/-- The index after another one in lexicographic order: the last position that is not at its end
goes up by one, and those after it go back to zero.  There is none after the last index.  It is the
step of the loop of `NdArray.to_vec`. -/
def next? : List Nat → List Nat → Option (List Nat)
  | n :: ns, i :: is =>
    match next? ns is with
    | some js => some (i :: js)
    | none => if i + 1 < n then some ((i + 1) :: origin ns) else none
  | _, _ => none

example : next? [2, 3] [0, 1] = some [0, 2] ∧ next? [2, 3] [0, 2] = some [1, 0] ∧
    next? [2, 3] [1, 2] = none := by decide

end Shape
end MemoryLease
