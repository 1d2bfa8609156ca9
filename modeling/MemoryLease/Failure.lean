import MemoryLease.Contract.Text

/-!
# Why a call fails

A call is refused when the request cannot be met: the caller is told why and may go on
(`Refusal`).  It faults when the caller broke a precondition or a size does not fit the address
space (`Fault`).  Each cause has one wording.

A refusal is an `Error` that is returned, a fault is a panic.
-/

namespace MemoryLease

/-- A request that cannot be met. -/
inductive Refusal where
  /-- The value does not own memory that it could show. -/
  | unsupportedSource (typeName : String)
  /-- The memory is not laid out as the contract demands. -/
  | incompatibleLayout (contract : Contract) (problem : String)
  /-- The contract contradicts itself. -/
  | invalidContract (contract : Contract) (problem : String)
  /-- The pointer has given back its view. -/
  | useAfterRelease
  /-- The memory must not be written. -/
  | readOnly
  /-- Other views of the memory are outstanding that the new one must not coexist with. -/
  | exportConflict (shared exclusive : Nat)
  /-- Views of the memory are outstanding, so it cannot move. -/
  | bufferExported (outstanding : Nat)
deriving DecidableEq

/-- The wording of a refusal. -/
def Refusal.message : Refusal → String
  | unsupportedSource typeName =>
    "value of type " ++ typeName ++ " does not support exporting a memory view"
  | incompatibleLayout contract problem =>
    "source cannot satisfy contract " ++ contract.text ++ ": " ++ problem
  | invalidContract contract problem =>
    "invalid contract " ++ contract.text ++ ": " ++ problem
  | useAfterRelease => "pointer used after its memory view was released"
  | readOnly => "source is read-only but a writable view was requested"
  | exportConflict shared exclusive =>
    s!"conflicting export: {shared} read-only and {exclusive} writable views are outstanding"
  | bufferExported outstanding =>
    s!"memory cannot be moved or resized while {outstanding} views are exported"

/-- A broken precondition, or a size that does not fit. -/
inductive Fault where
  /-- A canonical stride is too large. -/
  | canonicalStrides
  /-- A region has more extents than strides or fewer. -/
  | unequalDimensions
  /-- A region is larger than the address space. -/
  | regionTooLarge
  /-- A region has more extents than suboffsets or fewer. -/
  | suboffsetCount
  /-- The lock of a memory is poisoned. -/
  | poisonedLock
  /-- A lease was released that is not registered. -/
  | unregisteredLease
  /-- A memory is larger than an allocation may be. -/
  | allocationTooLarge
  /-- A range does not lie within a memory. -/
  | rangeOutOfBounds (offset length size : Nat)
  /-- A tensor is larger than the address space. -/
  | tensorTooLarge
  /-- The strides of a new tensor are too large. -/
  | stridesTooLarge (shape : List Nat)
  /-- A shape and a number of items do not agree. -/
  | itemCountMismatch (shape : List Nat) (items : Nat)
  /-- The number of items of a tensor is not a size. -/
  | itemCountTooLarge
  /-- A step of zero. -/
  | zeroStep
  /-- An axis that the tensor does not have. -/
  | axisOutOfRange (axis dimensions : Nat)
  /-- A step that is not an offset. -/
  | stepTooLarge
  /-- A stride that is not an offset once it is multiplied by a step. -/
  | strideOverflow
  /-- An index with more positions than the tensor has dimensions, or fewer. -/
  | positionCount (positions dimensions : Nat)
  /-- A position at or past the extent of its dimension. -/
  | positionOutOfBounds (position extent : Nat)
  /-- The place of an item is not an offset. -/
  | offsetOverflow
  /-- The place of an item is in front of the memory. -/
  | negativeOffset
deriving DecidableEq

/-- The wording of a fault. -/
def Fault.message : Fault → String
  | canonicalStrides => "canonical strides of the shape do not fit in an isize"
  | unequalDimensions => "every dimension must have both an extent and a stride"
  | regionTooLarge => "a memory region cannot be larger than the address space"
  | suboffsetCount => "every dimension must have a suboffset"
  | poisonedLock => "encountered poisoned lock - export bookkeeping can no longer be trusted"
  | unregisteredLease => "each lease is released once and only after being registered"
  | allocationTooLarge => "allocation size overflow or invalid alignment"
  | rangeOutOfBounds offset length size =>
    s!"range {offset}+{length} is out of bounds of {size} bytes"
  | tensorTooLarge => "array cannot be larger than the address space"
  | stridesTooLarge shape => "strides of shape " ++ Text.extents shape ++ " do not fit in an isize"
  | itemCountMismatch shape items =>
    "shape " ++ Text.extents shape ++ s!" does not match {items} items"
  | itemCountTooLarge => "validated when the array was created"
  | zeroStep => "step must be positive"
  | axisOutOfRange axis dimensions => s!"axis {axis} out of range for {dimensions} dimensions"
  | stepTooLarge => "step larger than the address space"
  | strideOverflow => "stride overflow"
  | positionCount positions dimensions =>
    s!"index has {positions} positions but the array has {dimensions} dimensions"
  | positionOutOfBounds position extent =>
    s!"index {position} out of bounds for extent {extent}"
  | offsetOverflow => "offset within an allocated region"
  | negativeOffset => "views never step before the start of their memory"

/-- Why a call fails. -/
inductive Failure where
  /-- The request cannot be met. -/
  | refused (refusal : Refusal)
  /-- A precondition is broken. -/
  | faulted (fault : Fault)
deriving DecidableEq

/-- The wording of a failure. -/
def Failure.message : Failure → String
  | refused refusal => refusal.message
  | faulted fault => fault.message

/-! ### Results in another form -/

/-- What is made of a result is there exactly if the result is. -/
theorem map_eq_ok_iff {ε α β : Type} {f : α → β} {e : Except ε α} {b : β} :
    e.map f = .ok b ↔ ∃ a, e = .ok a ∧ f a = b := by
  cases e <;> simp [Except.map]

end MemoryLease
