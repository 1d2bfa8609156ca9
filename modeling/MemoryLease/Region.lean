import MemoryLease.Address
import MemoryLease.Strides
import MemoryLease.Text.Quoted

/-!
# Regions

A region is the full layout of a piece of memory as its source states it: where it starts, how
large an item is, and the extent and byte stride of each dimension, with suboffsets if the items
are reached through further addresses.  It is a `RawLayout`, and is made by `RawLayout.new`: the
length in bytes is never stated, but follows from the shape and the size of an item
(`Region.strided`).  Whoever is handed a region looks all the same whether what it states fits
together (`Region.inconsistency?`).
-/

namespace MemoryLease

/-- What a region states that does not fit together. -/
inductive Inconsistency where
  /-- There are more extents than strides, or fewer. -/
  | dimensions
  /-- The length is not that of as many items as the shape has. -/
  | length
deriving DecidableEq

/-- The layout of a piece of memory (`RawLayout`). -/
structure Region where
  /-- The address of the item at the first index. -/
  base : Address
  /-- The bytes that all items take. -/
  length : Nat
  /-- The bytes that one item takes. -/
  itemSize : Nat
  /-- Whether the memory must not be written. -/
  readOnly : Bool := false
  /-- The format code of an item. -/
  format : String := "B"
  /-- The extent of each dimension. -/
  shape : List Nat
  /-- The byte stride of each dimension. -/
  strides : List Int
  /-- The suboffset of each dimension, where addressing is indirect. -/
  suboffsets : Option (List Int) := none
deriving DecidableEq

namespace Region

/-- The region of items of a given size, with an extent and a byte stride for each dimension
(`RawLayout.new`). -/
def strided (base : Address) (itemSize : Nat) (shape : List Nat) (strides : List Int) :
    Except Fault Region :=
  if shape.length ≠ strides.length then .error .unequalDimensions
  else
    match Shape.byteLength? itemSize shape with
    | none => .error .regionTooLarge
    | some length => .ok ⟨base, length, itemSize, false, "B", shape, strides, none⟩

/-- The region of a run of bytes (`RawLayout.bytes`). -/
def ofBytes (base : Address) (length : Nat) : Except Fault Region :=
  strided base 1 [length] [1]

/-- A region with a suboffset for each dimension (`RawLayout.suboffsets`). -/
def withSuboffsets (r : Region) (suboffsets : List Int) : Except Fault Region :=
  if suboffsets.length ≠ r.shape.length then .error .suboffsetCount
  else .ok { r with suboffsets := some suboffsets }

/-- What a region states that does not fit together, if anything does not.  The dimensions are
looked at first. -/
def inconsistency? (r : Region) : Option Inconsistency :=
  if r.shape.length ≠ r.strides.length then some .dimensions
  else if Shape.byteLength? r.itemSize r.shape ≠ some r.length then some .length
  else none

/-- Whether a region is reached without further addresses and its items have no gaps between them
in an order. -/
def isContiguous (r : Region) (order : MemoryOrder) : Bool :=
  r.suboffsets.isNone && Strides.isContiguous order r.itemSize r.shape r.strides

/-- Where an item lies, counted in bytes from the base. -/
def offsetOf (r : Region) (index : List Nat) : Int := Strides.offsetOf r.strides index

/-- A region as a record. -/
def record (r : Region) : String :=
  Text.record "RawLayout"
    [("base", r.base.hex),
     ("len", toString r.length),
     ("item_size", toString r.itemSize),
     ("read_only", Text.truth r.readOnly),
     ("format", Text.quoted r.format),
     ("shape", Text.extents r.shape),
     ("strides", Text.offsets r.strides),
     ("suboffsets", Text.optional (r.suboffsets.map Text.offsets))]

/-! ### Descriptions of regions -/

/-- The dimensions of a region that is to be described. -/
inductive Extent where
  /-- A run of bytes. -/
  | bytes (length : Nat)
  /-- Items of a size, with an extent and a byte stride for each dimension. -/
  | items (itemSize : Nat) (shape : List Nat) (strides : List Int)
deriving DecidableEq

/-- A description of a region, which may turn out not to describe any. -/
structure Description where
  /-- The address of the item at the first index. -/
  base : Address
  /-- The dimensions. -/
  extent : Extent
  /-- Whether the memory must not be written. -/
  readOnly : Bool := false
  /-- The format code of an item, if it is stated. -/
  format : Option String := none
  /-- The suboffset of each dimension, if they are stated. -/
  suboffsets : Option (List Int) := none
deriving DecidableEq

namespace Description

/-- The region of an extent at a base, before anything else is stated of it. -/
def plain (base : Address) : Extent → Except Fault Region
  | .bytes length => ofBytes base length
  | .items itemSize shape strides => strided base itemSize shape strides

/-- The region that a description describes. -/
def region (d : Description) : Except Fault Region :=
  match plain d.base d.extent with
  | .error fault => .error fault
  | .ok r =>
    let r := { r with readOnly := d.readOnly, format := d.format.getD r.format }
    match d.suboffsets with
    | none => .ok r
    | some suboffsets => r.withSuboffsets suboffsets

end Description
end Region
end MemoryLease
