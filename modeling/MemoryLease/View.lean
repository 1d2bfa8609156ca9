import MemoryLease.Region

/-!
# Views

A view is what a caller is told of a region: its address and length, and of the rest what the
caller's contract asked for.  Foreign code that has a view and nothing else finds the items through
the shape and the strides if the view has them, and takes them to follow each other without gaps if
it has not (`MemoryView.itemOffsets`).
-/

namespace MemoryLease

/-- The negotiated description of a region (`MemoryView`).  `address` is also what `base_ptr` hands
out. -/
structure MemoryView where
  /-- The address of the item at the first index. -/
  address : Address
  /-- The bytes that all items take. -/
  length : Nat
  /-- The bytes that one item takes. -/
  itemSize : Nat
  /-- The number of dimensions of the region. -/
  dimensions : Nat
  /-- Whether the memory must not be written. -/
  readOnly : Bool
  /-- The format code of an item. -/
  format : Option String
  /-- The extent of each dimension. -/
  shape : Option (List Nat)
  /-- The byte stride of each dimension. -/
  strides : Option (List Int)
  /-- The suboffset of each dimension. -/
  suboffsets : Option (List Int)
deriving DecidableEq

namespace MemoryView

/-- Whether a view covers no byte (`MemoryView.is_empty`). -/
def isEmpty (v : MemoryView) : Bool := v.length == 0

/-- Where foreign code looks for the items, counted in bytes from the address, in the order in
which it visits them. -/
def itemOffsets (v : MemoryView) : List Int :=
  match v.shape, v.strides with
  | some shape, some strides => (Shape.indexes shape).map (Strides.offsetOf strides)
  | _, _ => (List.range (v.length / v.itemSize)).map fun k => ((k * v.itemSize : Nat) : Int)

/-- A view as a record. -/
def record (v : MemoryView) : String :=
  Text.record "MemoryView"
    [("address", v.address.hex),
     ("len", toString v.length),
     ("item_size", toString v.itemSize),
     ("ndim", toString v.dimensions),
     ("read_only", Text.truth v.readOnly),
     ("format", Text.optional (v.format.map Text.quoted)),
     ("shape", Text.optional (v.shape.map Text.extents)),
     ("strides", Text.optional (v.strides.map Text.offsets)),
     ("suboffsets", Text.optional (v.suboffsets.map Text.offsets))]

end MemoryView
end MemoryLease
