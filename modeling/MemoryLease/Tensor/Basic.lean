import MemoryLease.Memory
import MemoryLease.Region

/-!
# Tensors

A tensor is a handle to the items of a memory: a shape, and the byte stride of each dimension.  A
new tensor lies in its memory without gaps in one of the two orders.  Further handles to the same
memory show every so many items along an axis (`Tensor.step`), the axes in reverse
(`Tensor.transpose`), or the same items for reading only.

A tensor is an `NdArray`; `layOut` is its `with_storage`, and `region` is what its `export` states
once the storage has registered the view.  The item type is part of the memory here, so what depends
on it takes the type or the memory as an argument.
-/

namespace MemoryLease

/-- A handle to the items of a memory (`NdArray`). -/
structure Tensor where
  /-- The memory, by its number. -/
  memory : Nat
  /-- The extent of each dimension. -/
  shape : List Nat
  /-- The byte stride of each dimension. -/
  strides : List Int
  /-- Whether the handle refuses to write. -/
  readOnly : Bool := false
deriving DecidableEq

namespace Tensor

/-- The tensor that lies in a new memory without gaps (`NdArray.with_storage`). -/
def layOut (memory : Nat) (item : ItemType) (shape : List Nat) (order : MemoryOrder) :
    Except Fault Tensor :=
  match Strides.canonical? order item.size shape with
  | some strides => .ok { memory, shape, strides }
  | none => .error (.stridesTooLarge shape)

/-- A tensor of zeros in a memory of its own (`NdArray.zeros`). -/
def zeros (memory : Nat) (item : ItemType) (shape : List Nat) (order : MemoryOrder) :
    Except Fault (Memory × Tensor) :=
  match Shape.byteLength? item.size shape with
  | none => .error .tensorTooLarge
  | some size =>
    match Memory.zeroed item size with
    | .error fault => .error fault
    | .ok m => (layOut memory item shape order).map fun t => (m, t)

/-- A tensor of the given items in a memory of its own (`NdArray.from_vec`).  The items are stored
as they come, and the order says which index finds which. -/
def ofItems (memory : Nat) (item : ItemType) (items : List Int) (shape : List Nat)
    (order : MemoryOrder) : Except Fault (Memory × Tensor) :=
  if Shape.count? shape ≠ some items.length then
    .error (.itemCountMismatch shape items.length)
  else
    match Memory.ofBytes item (items.flatMap item.encode) with
    | .error fault => .error fault
    | .ok m => (layOut memory item shape order).map fun t => (m, t)

/-- The number of dimensions (`NdArray.ndim`). -/
def dimensions (t : Tensor) : Nat := t.shape.length

/-- The number of items (`NdArray.len`). -/
def length (t : Tensor) : Except Fault Nat :=
  match Shape.count? t.shape with
  | some count => .ok count
  | none => .error .itemCountTooLarge

/-- Whether there is no item (`NdArray.is_empty`). -/
def isEmpty (t : Tensor) : Except Fault Bool :=
  t.length.map fun count => count == 0

/-- Whether the items, of the given type, have no gaps between them in an order
(`NdArray.is_c_contiguous`, `NdArray.is_f_contiguous`). -/
def isContiguous (t : Tensor) (item : ItemType) (order : MemoryOrder) : Bool :=
  Strides.isContiguous order item.size t.shape t.strides

/-! ### Further handles -/

/-- The same items, for reading only (`NdArray.read_only`). -/
def asReadOnly (t : Tensor) : Tensor := { t with readOnly := true }

/-- The axes in reverse (`NdArray.transpose`). -/
def transpose (t : Tensor) : Tensor :=
  { t with shape := t.shape.reverse, strides := t.strides.reverse }

/-- The items at the positions `0`, `step`, `2 * step` and so on of an axis (`NdArray.step`). -/
def step (t : Tensor) (axis step : Nat) : Except Fault Tensor :=
  if step = 0 then .error .zeroStep
  else
    match t.shape[axis]?, t.strides[axis]? with
    | some extent, some stride =>
      if offsetMax < step then .error .stepTooLarge
      else
        match offset? (stride * step) with
        | none => .error .strideOverflow
        | some stride => .ok { t with
            shape := t.shape.set axis ((extent + step - 1) / step)
            strides := t.strides.set axis stride }
    | _, _ => .error (.axisOutOfRange axis t.dimensions)

/-! ### What a tensor states of itself -/

/-- The region that a tensor states when it lends its memory (`export`). -/
def region (t : Tensor) (m : Memory) : Except Fault Region :=
  (Region.strided (m.base t.memory) m.item.size t.shape t.strides).map fun r =>
    { r with format := m.item.format, readOnly := t.readOnly }

/-- A tensor of items of a type as a record. -/
def record (t : Tensor) (item : ItemType) : String :=
  Text.openRecord "NdArray"
    [("format", Text.quoted item.format),
     ("shape", Text.extents t.shape),
     ("strides", Text.offsets t.strides),
     ("read_only", Text.truth t.readOnly)]

end Tensor
end MemoryLease
