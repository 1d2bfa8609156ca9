import MemoryLease.Address
import MemoryLease.Block
import MemoryLease.Failure
import MemoryLease.Item
import MemoryLease.Limits

/-!
# Owned memory

A memory is a heap block of bytes together with the account of the views of it that are
outstanding.  Any number of views for reading may be outstanding at a time; a view for writing is
outstanding alone; and the block does not move while any view is outstanding.

The account is kept under a lock.  A call that faults while it holds the lock poisons it, and every
later call on the memory faults (`Memory.unwound`).  The only such call is one that asks for a block
larger than an allocation may be: a range that is out of bounds faults as well, but gives the lock
back first.  So a call that changes a memory returns the memory, with its lock, beside the result.

The definitions are those of `SharedStorage`, the state behind its lock and the `Allocation` in it.
-/

namespace MemoryLease

/-- A heap block and the account of the views of it. -/
structure Memory where
  /-- The type of the items that the block was allocated for, which fixes its alignment. -/
  item : ItemType
  /-- The contents. -/
  block : Block
  /-- How often the block has been allocated anew. -/
  moves : Nat := 0
  /-- The number of outstanding views for reading. -/
  shared : Nat := 0
  /-- The number of outstanding views for writing. -/
  exclusive : Nat := 0
  /-- Whether the lock is poisoned. -/
  poisoned : Bool := false
deriving DecidableEq

namespace Memory

instance : Inhabited Memory := ⟨{ item := .uint8, block := .empty }⟩

/-- The number of bytes. -/
def size (m : Memory) : Nat := m.block.size

/-- The bytes of the block. -/
def bytes (m : Memory) : List UInt8 := m.block.toList

/-- A memory has as many bytes as its size says. -/
@[simp] theorem length_bytes (m : Memory) : m.bytes.length = m.size := m.block.length_toList

/-- The number of outstanding views. -/
def outstanding (m : Memory) : Nat := m.shared + m.exclusive

/-- Where the block of a memory starts.  An empty block takes no place on the heap, and its address
is its alignment. -/
def base (m : Memory) (id : Nat) : Address :=
  if m.size = 0 then .fixed m.item.size else .heap id m.moves

/-- The largest allocation for items of a type: rounded up to the alignment it is still an
offset. -/
def allocationMax (item : ItemType) : Nat := 9223372036854775808 - item.size

example : allocationMax .uint8 = 2 ^ 63 - 1 ∧ allocationMax .float64 = 2 ^ 63 - 8 := by decide

/-- The largest allocation lies within the address space. -/
theorem allocationMax_le_sizeMax (item : ItemType) : allocationMax item ≤ sizeMax := by
  unfold allocationMax sizeMax
  omega

/-- What an allocation can hold is a size. -/
theorem le_sizeMax_of_fits {item : ItemType} {size : Nat} (fits : size ≤ allocationMax item) :
    size ≤ sizeMax :=
  Nat.le_trans fits (allocationMax_le_sizeMax item)

/-- A memory of zeros (`SharedStorage.zeroed`). -/
def zeroed (item : ItemType) (size : Nat) : Except Fault Memory :=
  if h : size ≤ allocationMax item then
    .ok { item, block := .zeroed size (le_sizeMax_of_fits h) }
  else .error .allocationTooLarge

/-- A memory with the given contents (`SharedStorage.from_bytes`). -/
def ofBytes (item : ItemType) (bytes : List UInt8) : Except Fault Memory :=
  if h : bytes.length ≤ allocationMax item then
    .ok { item, block := .ofList bytes (le_sizeMax_of_fits h) }
  else .error .allocationTooLarge

/-- The memory once its allocation has a new size (`Allocation.resize`).  The same size is had
already; an empty block is allocated anew, and a block that is to be empty is given up; any other
block is put elsewhere, and the bytes that come to it are overwritten with zeros. -/
def reallocated (m : Memory) (allocator : Block.Allocator) (size : Nat) : Except Fault Memory :=
  if size = m.size then .ok m
  else if m.size = 0 then
    (zeroed m.item size).map fun new => { m with block := new.block, moves := m.moves + 1 }
  else if size = 0 then .ok { m with block := .empty, moves := m.moves + 1 }
  else if h : size ≤ allocationMax m.item then
    let moved := (allocator m.block size (le_sizeMax_of_fits h)).block
    .ok { m with
      block := if m.size ≤ size then moved.zeroedFrom m.size else moved
      moves := m.moves + 1 }
  else .error .allocationTooLarge

/-! ### Calls that take the lock -/

/-- Whether the lock can be taken. -/
def lock (m : Memory) : Except Fault Unit :=
  if m.poisoned then .error .poisonedLock else .ok ()

/-- The memory after a call has faulted that took the lock.  The lock is poisoned unless the call
gave it back first. -/
def unwound (m : Memory) (locked : Bool) : Memory :=
  if locked then { m with poisoned := true } else m

/-- The number of bytes, under the lock (`len`). -/
def length (m : Memory) : Except Fault Nat :=
  m.lock.map fun _ => m.size

/-- The number of outstanding views, under the lock (`outstanding_exports`). -/
def outstandingViews (m : Memory) : Except Fault Nat :=
  m.lock.map fun _ => m.outstanding

/-- The contents, under the lock (`to_vec`). -/
def contents (m : Memory) : Except Fault (List UInt8) :=
  m.lock.map fun _ => m.bytes

/-- Whether a new view must not coexist with those outstanding. -/
def conflicts (m : Memory) (writable : Bool) : Bool :=
  if writable then 0 < m.outstanding else 0 < m.exclusive

/-- The memory with one more outstanding view (`SharedStorage.export`). -/
def register (m : Memory) (writable : Bool) : Except Failure Memory :=
  match m.lock with
  | .error fault => .error (.faulted fault)
  | .ok () =>
    if m.conflicts writable then .error (.refused (.exportConflict m.shared m.exclusive))
    else if writable then .ok { m with exclusive := m.exclusive + 1 }
    else .ok { m with shared := m.shared + 1 }

/-- The memory with one outstanding view less (`StorageLease.release`). -/
def release (m : Memory) (writable : Bool) : Except Fault Memory :=
  match m.lock with
  | .error fault => .error fault
  | .ok () =>
    if writable then
      if m.exclusive = 0 then .error .unregisteredLease
      else .ok { m with exclusive := m.exclusive - 1 }
    else
      if m.shared = 0 then .error .unregisteredLease
      else .ok { m with shared := m.shared - 1 }

/-- The memory with a new size, and whether it got it (`SharedStorage.resize`).  A memory with an
outstanding view keeps its size.  A size that no allocation can have faults while the lock is
held. -/
def resize (m : Memory) (size : Nat) : Memory × Except Failure Unit :=
  match m.lock with
  | .error fault => (m, .error (.faulted fault))
  | .ok () =>
    if 0 < m.outstanding then (m, .error (.refused (.bufferExported m.outstanding)))
    else
      match m.reallocated .stale size with
      | .ok m' => (m', .ok ())
      | .error fault => (m.unwound true, .error (.faulted fault))

/-- The bytes of a range, under the lock (`lock_range`). -/
def read (m : Memory) (offset length : Nat) : Except Fault (List UInt8) :=
  match m.lock with
  | .error fault => .error fault
  | .ok () =>
    match m.block.slice? offset length with
    | some bytes => .ok bytes
    | none => .error (.rangeOutOfBounds offset length m.size)

/-- The memory with the bytes from an offset on replaced, under the lock, and whether they have been
(`SharedStorage.write`).  The lock is given back before the fault that the range is out of bounds
(`lock_range`). -/
def write (m : Memory) (offset : Nat) (data : List UInt8) : Memory × Except Fault Unit :=
  match m.lock with
  | .error fault => (m, .error fault)
  | .ok () =>
    match m.block.splice? offset data with
    | some block => ({ m with block }, .ok ())
    | none => (m.unwound false, .error (.rangeOutOfBounds offset data.length m.size))

/-- The item at a byte offset, under the lock (`read_item`).  It may have another type than the
items that the block was allocated for, and lie anywhere. -/
def readItem (m : Memory) (item : ItemType) (offset : Nat) : Except Fault Int :=
  (m.read offset item.size).map item.decode

/-- The memory with the item at a byte offset replaced, under the lock, and whether it has been
(`write_item`). -/
def writeItem (m : Memory) (item : ItemType) (offset : Nat) (value : Int) :
    Memory × Except Fault Unit :=
  m.write offset (item.encode value)

/-! ### Foreign access -/

/-- The item that foreign code reads at a byte offset from the base, without asking anybody.  There
is none if it does not lie within the block. -/
def peek (m : Memory) (item : ItemType) : Int → Option Int
  | .ofNat offset => (m.block.slice? offset item.size).map item.decode
  | .negSucc _ => none

/-- The memory after foreign code has written an item at a byte offset from the base. -/
def poke (m : Memory) (item : ItemType) (offset : Nat) (value : Int) : Option Memory :=
  (m.block.splice? offset (item.encode value)).map fun block => { m with block }

end Memory
end MemoryLease
