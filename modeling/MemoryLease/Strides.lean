import MemoryLease.Failure
import MemoryLease.Shape

/-!
# Byte strides

A byte stride says how far apart in memory two items are whose positions differ by one in one
dimension; a negative stride runs backwards.  The canonical strides of a shape in one of the two
orders lay its items out without gaps.  Both the canonical strides and the test for contiguity go
through the dimensions from the fastest to the slowest, and carry the size in bytes of all the
dimensions passed so far.

The loops are `fill_strides` and `is_contiguous`; the order that they go in is what tells
`checked_c_strides` from `checked_f_strides` and `is_c_contiguous` from `is_f_contiguous`.
-/

namespace MemoryLease

/-- The order in which the indexes of a region run through memory (`Order`). -/
inductive MemoryOrder where
  /-- The last index varies fastest. -/
  | rowMajor
  /-- The first index varies fastest. -/
  | columnMajor
deriving DecidableEq

namespace Strides

/-- Where the item of an index lies, counted in bytes from the item of the first index. -/
def offsetOf : List Int → List Nat → Int
  | stride :: strides, i :: is => i * stride + offsetOf strides is
  | _, _ => 0

/-! ### Canonical strides -/

/-- The strides of dimensions, the fastest first, when an item of the first one is `step` bytes
large (`fill_strides`): each stride has to be an offset, and each product that a further stride is
made of a size.  The product past the slowest dimension is not needed and not formed. -/
def fastestFirst (step : Nat) : List Nat → Option (List Int)
  | [] => some []
  | [_] => (offset? step).map fun stride => [stride]
  | n :: m :: ns =>
    (offset? step).bind fun stride =>
      (size? (step * n)).bind fun product =>
        (fastestFirst product (m :: ns)).map fun strides => stride :: strides

/-- The strides of a shape without gaps in an order, if each is an offset (`checked_c_strides`,
`checked_f_strides`). -/
def canonical? (order : MemoryOrder) (itemSize : Nat) (shape : List Nat) : Option (List Int) :=
  match order with
  | .rowMajor => (fastestFirst itemSize shape.reverse).map List.reverse
  | .columnMajor => fastestFirst itemSize shape

/-- Each extent gets one stride. -/
theorem length_fastestFirst {step : Nat} {shape : List Nat} {strides : List Int}
    (h : fastestFirst step shape = some strides) : strides.length = shape.length := by
  induction shape generalizing step strides with
  | nil =>
    obtain rfl := Option.some.inj h
    rfl
  | cons n ns ih =>
    cases ns with
    | nil =>
      obtain ⟨s, -, rfl⟩ := Option.map_eq_some_iff.1 h
      rfl
    | cons m ns =>
      obtain ⟨s, -, h₁⟩ := Option.bind_eq_some_iff.1 h
      obtain ⟨p, -, h₂⟩ := Option.bind_eq_some_iff.1 h₁
      obtain ⟨ss, h₃, rfl⟩ := Option.map_eq_some_iff.1 h₂
      simp [ih h₃]

/-- In either order, each extent gets one stride. -/
theorem length_canonical? {order : MemoryOrder} {itemSize : Nat} {shape : List Nat}
    {strides : List Int} (h : canonical? order itemSize shape = some strides) :
    strides.length = shape.length := by
  cases order with
  | rowMajor =>
    obtain ⟨ss, h₁, rfl⟩ := Option.map_eq_some_iff.1 h
    simpa using length_fastestFirst h₁
  | columnMajor => exact length_fastestFirst h

/-- The strides of a shape without gaps in an order, for a caller that knows them to exist
(`c_strides`, `f_strides`). -/
def canonical (order : MemoryOrder) (itemSize : Nat) (shape : List Nat) :
    Except Fault (List Int) :=
  match canonical? order itemSize shape with
  | some strides => .ok strides
  | none => .error .canonicalStrides

/-! ### Contiguity -/

/-- Whether dimensions, the fastest first, follow each other without gaps when an item of the first
one is `expected` bytes large (`is_contiguous`).  A dimension of extent one may have any stride. -/
def gapless (expected : Nat) : List (Nat × Int) → Bool
  | [] => true
  | (n, stride) :: dimensions =>
    if 1 < n ∧ stride ≠ expected then false
    else
      match size? (expected * n) with
      | none => false
      | some next => gapless next dimensions

/-- Whether a region of the given shape and strides is contiguous in an order (`is_c_contiguous`,
`is_f_contiguous`).  A region without items is contiguous in both.  Where shape and strides differ
in length, only the dimensions that have both count. -/
def isContiguous (order : MemoryOrder) (itemSize : Nat) (shape : List Nat) (strides : List Int) :
    Bool :=
  let dimensions := shape.zip strides
  dimensions.any (fun dimension => dimension.1 == 0) ||
    gapless itemSize (match order with
      | .rowMajor => dimensions.reverse
      | .columnMajor => dimensions)

example : canonical? .rowMajor 8 [3, 4] = some [32, 8] ∧
    canonical? .columnMajor 8 [3, 4] = some [8, 24] := by decide

example : isContiguous .rowMajor 8 [3, 4] [32, 8] = true ∧
    isContiguous .columnMajor 8 [3, 4] [32, 8] = false ∧
    isContiguous .columnMajor 8 [1, 4] [-7, 8] = true := by decide

end Strides
end MemoryLease
