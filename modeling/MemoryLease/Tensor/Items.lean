import MemoryLease.Tensor.Basic

/-!
# The items of a tensor

The place of an item is the sum of its positions times the strides, formed dimension by dimension.
Each dimension faults where its position is out of bounds, and where a product or a sum is not an
offset, before the next one is looked at.  All items together are read by an odometer that starts
at the first index and goes from one index to the next.
-/

namespace MemoryLease
namespace Tensor

/-- The place of an item, when the dimensions in front of the given ones contribute `total`. -/
def placeFrom (total : Int) : List Nat → List Int → List Nat → Except Fault Int
  | extent :: shape, stride :: strides, position :: index =>
    if extent ≤ position then .error (.positionOutOfBounds position extent)
    else if offsetMax < position then .error .offsetOverflow
    else
      match offset? (position * stride) with
      | none => .error .offsetOverflow
      | some product =>
        match offset? (total + product) with
        | none => .error .offsetOverflow
        | some total => placeFrom total shape strides index
  | _, _, _ => .ok total

/-- The place of the item of an index, in bytes from the start of the memory (`byte_offset`). -/
def place (t : Tensor) (index : List Nat) : Except Fault Nat :=
  if index.length ≠ t.dimensions then .error (.positionCount index.length t.dimensions)
  else
    match placeFrom 0 t.shape t.strides index with
    | .error fault => .error fault
    | .ok (.ofNat offset) => .ok offset
    | .ok (.negSucc _) => .error .negativeOffset

/-- The item at an index (`NdArray.get`). -/
def get (t : Tensor) (m : Memory) (index : List Nat) : Except Fault Int :=
  match t.place index with
  | .error fault => .error fault
  | .ok offset => m.readItem m.item offset

/-- The memory after an attempt to replace the item at an index, and how that went (`NdArray.set`).
A handle for reading refuses, whatever the index. -/
def set (t : Tensor) (m : Memory) (index : List Nat) (value : Int) :
    Memory × Except Failure Unit :=
  if t.readOnly then (m, .error (.refused .readOnly))
  else
    match t.place index with
    | .error fault => (m, .error (.faulted fault))
    | .ok offset =>
      let (m, result) := m.writeItem m.item offset value
      (m, result.mapError .faulted)

/-- The items from an index on, at most `count` of them. -/
def itemsFrom (t : Tensor) (m : Memory) : (count : Nat) → List Nat → Except Fault (List Int)
  | 0, _ => .ok []
  | count + 1, index =>
    match t.get m index with
    | .error fault => .error fault
    | .ok value =>
      match Shape.next? t.shape index with
      | none => .ok [value]
      | some index => (t.itemsFrom m count index).map (value :: ·)

/-- All items in row-major order, wherever they lie in memory (`NdArray.to_vec`). -/
def toList (t : Tensor) (m : Memory) : Except Fault (List Int) :=
  match t.length with
  | .error fault => .error fault
  | .ok count => t.itemsFrom m count (Shape.origin t.shape)

end Tensor
end MemoryLease
