import MemoryLease.View

/-!
# Negotiation

A region meets a contract or it does not (`Region.negotiate`).  Where it does, the caller gets a
view with the region's address, length, item size and access, and as much of the rest as the
contract asks for.  Where the contract asks for an order, the view reports the canonical strides of
that order in place of the region's own: the two differ only in dimensions of extent one and in
regions without items.

The checks and their order are those of `negotiate`, which follows the negotiation rules of the
specification (11.3): writing first, then what the region states of itself, then indirect
addressing, and then the layout.
-/

namespace MemoryLease

/-- What about the layout of a region does not meet a contract. -/
inductive Mismatch where
  /-- What the region states does not fit together, so it meets no contract. -/
  | inconsistent (what : Inconsistency)
  /-- The items are reached through further addresses, and the caller does not expect that. -/
  | indirect
  /-- There are gaps in row-major order, or another order. -/
  | notRowMajor
  /-- There are gaps in column-major order, or another order. -/
  | notColumnMajor
  /-- Neither order is without gaps. -/
  | notContiguous
  /-- A canonical stride is too large. -/
  | canonicalStrides
deriving DecidableEq

/-- The wording of a mismatch. -/
def Mismatch.text : Mismatch → String
  | inconsistent .dimensions => "shape and strides differ in dimensionality"
  | inconsistent .length => "length does not match shape and item size"
  | indirect => "memory uses indirect addressing but suboffsets were not requested"
  | notRowMajor => "memory is not C-contiguous"
  | notColumnMajor => "memory is not Fortran-contiguous"
  | notContiguous => "memory is not contiguous in any order"
  | canonicalStrides => "canonical strides of the shape do not fit in an isize"

namespace Region

/-- The strides of a region's shape without gaps in an order. -/
def canonicalStrides (r : Region) (order : MemoryOrder) : Except Mismatch (List Int) :=
  match Strides.canonical? order r.itemSize r.shape with
  | some strides => .ok strides
  | none => .error .canonicalStrides

/-- The strides that a view of a region reports for a contiguity. -/
def reportedStrides (r : Region) : Contiguity → Except Mismatch (List Int)
  | .unspecified => .ok r.strides
  | .rowMajor => r.canonicalStrides .rowMajor
  | .columnMajor =>
    if r.isContiguous .columnMajor then r.canonicalStrides .columnMajor
    else .error .notColumnMajor
  | .either =>
    if r.isContiguous .rowMajor then r.canonicalStrides .rowMajor
    else if r.isContiguous .columnMajor then r.canonicalStrides .columnMajor
    else .error .notContiguous

/-- The strides that a view of a region reports under a contract, if the layout of the region meets
the contract. -/
def agreedStrides (r : Region) (c : Contract) : Except Mismatch (List Int) :=
  match r.inconsistency? with
  | some what => .error (.inconsistent what)
  | none =>
    if r.suboffsets.isSome && c.metadata != .indirect then .error .indirect
    else if c.requiresRowMajor && !r.isContiguous .rowMajor then .error .notRowMajor
    else r.reportedStrides c.contiguity

/-- The view of a region under a contract, once its strides are agreed on. -/
def view (r : Region) (c : Contract) (strides : List Int) : MemoryView where
  address := r.base
  length := r.length
  itemSize := r.itemSize
  dimensions := r.shape.length
  readOnly := r.readOnly
  format := if c.wantsFormat then some r.format else none
  shape := if Metadata.extents ≤ c.metadata then some r.shape else none
  strides := if Metadata.strides ≤ c.metadata then some strides else none
  suboffsets := if c.metadata = .indirect then r.suboffsets else none

/-- The view of a region under a contract, or why there is none (`negotiate`).  Writing comes first:
a region that must not be written meets no contract for writing, whatever its layout. -/
def negotiate (r : Region) (c : Contract) : Except Refusal MemoryView :=
  if c.isWritable && r.readOnly then .error .readOnly
  else
    match r.agreedStrides c with
    | .error mismatch => .error (.incompatibleLayout c mismatch.text)
    | .ok strides => .ok (r.view c strides)

end Region
end MemoryLease
