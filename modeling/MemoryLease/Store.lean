import MemoryLease.Memory
import MemoryLease.Region

/-!
# The store

The store holds what outlives any single handle: the memories that this library owns, the foreign
sources that it only calls, and the leases that nobody can return any more.  A memory and a foreign
source are known by the number of those made before them.

A lease is the right and the duty to return what a source has lent.  A memory counts its leases; a
foreign source numbers them, and notes the number of each one that comes back.

A memory is freed when the last handle to it and the last lease of it are gone.  The store keeps the
number of a memory that is freed, so that no other memory gets it, and notes that it is.
-/

namespace MemoryLease

/-- What has to be returned to a source (`StorageLease`, or the lease of a foreign source). -/
inductive Lease where
  /-- A view of a memory. -/
  | memory (id : Nat) (writable : Bool)
  /-- A region of a foreign source, by the number of those that it lent before. -/
  | foreign (id : Nat) (ticket : Nat)
deriving DecidableEq

/-- The memory that a lease is of, by its number. -/
def Lease.memory? : Lease → Option Nat
  | memory id _ => some id
  | foreign _ _ => none

/-- A source of memory that this library does not own: an implementation of `BufferSource` by
somebody else, with what it has been asked and what has come back. -/
structure ForeignSource where
  /-- What it lends. -/
  description : Region.Description
  /-- Why it lends nothing, if it refuses. -/
  refusal : Option Refusal
  /-- The contracts under which it has been asked, in order. -/
  seen : List Contract := []
  /-- How many regions it has lent. -/
  granted : Nat := 0
  /-- The leases that have come back, in order. -/
  returned : List Nat := []
deriving DecidableEq

instance : Inhabited ForeignSource := ⟨⟨⟨.fixed 0, .bytes 0, false, none, none⟩, none, [], 0, []⟩⟩

/-- What outlives any single handle. -/
structure Store where
  /-- The memories, in the order in which they were made. -/
  memories : List Memory := []
  /-- The foreign sources, in the order in which they were made. -/
  foreigns : List ForeignSource := []
  /-- The leases that nobody holds and nobody has returned. -/
  abandoned : List Lease := []
  /-- The memories that have been freed, in order. -/
  freed : List Nat := []
deriving DecidableEq

namespace Store

/-- The memory of a number. -/
def memory (s : Store) (id : Nat) : Memory := s.memories.getD id default

/-- The foreign source of a number. -/
def foreign (s : Store) (id : Nat) : ForeignSource := s.foreigns.getD id default

/-- The store with another state of a memory. -/
def setMemory (s : Store) (id : Nat) (m : Memory) : Store :=
  { s with memories := s.memories.set id m }

/-- The store with another state of a foreign source. -/
def setForeign (s : Store) (id : Nat) (f : ForeignSource) : Store :=
  { s with foreigns := s.foreigns.set id f }

/-- The store with one more memory, whose number is `s.memories.length`. -/
def addMemory (s : Store) (m : Memory) : Store :=
  { s with memories := s.memories ++ [m] }

/-- The store with one more foreign source, whose number is `s.foreigns.length`. -/
def addForeign (s : Store) (f : ForeignSource) : Store :=
  { s with foreigns := s.foreigns ++ [f] }

/-- The store with one more lease that nobody can return. -/
def abandon (s : Store) (lease : Lease) : Store :=
  { s with abandoned := s.abandoned ++ [lease] }

/-- Replacing a memory that is there puts the new state in its place. -/
@[simp] theorem memory_setMemory_self {s : Store} {id : Nat} (h : id < s.memories.length)
    (m : Memory) : (s.setMemory id m).memory id = m := by
  simp [memory, setMemory, h]

/-- Replacing a memory leaves the others alone. -/
@[simp] theorem memory_setMemory_of_ne {s : Store} {id other : Nat} (h : id ≠ other) (m : Memory) :
    (s.setMemory id m).memory other = s.memory other := by
  simp [memory, setMemory, h]

/-- Replacing a foreign source that is there puts the new state in its place. -/
@[simp] theorem foreign_setForeign_self {s : Store} {id : Nat} (h : id < s.foreigns.length)
    (f : ForeignSource) : (s.setForeign id f).foreign id = f := by
  simp [foreign, setForeign, h]

/-- Replacing a foreign source leaves the others alone. -/
@[simp] theorem foreign_setForeign_of_ne {s : Store} {id other : Nat} (h : id ≠ other)
    (f : ForeignSource) : (s.setForeign id f).foreign other = s.foreign other := by
  simp [foreign, setForeign, h]

/-- A memory that is replaced by itself leaves the store as it was. -/
@[simp] theorem setMemory_memory (s : Store) (id : Nat) : s.setMemory id (s.memory id) = s := by
  have h : s.memories.set id (s.memories.getD id default) = s.memories := by
    apply List.ext_getElem (by simp)
    intro i hi _
    by_cases e : id = i
    · subst e
      rw [List.length_set] at hi
      simp [hi]
    · simp [e]
  simp only [setMemory, memory, h]

/-- A number that belongs to no memory yet. -/
theorem memory_of_length_le {s : Store} {id : Nat} (h : s.memories.length ≤ id) :
    s.memory id = default := by
  simp [memory, h]

/-- Losing a lease touches no memory. -/
@[simp] theorem memory_abandon (s : Store) (id : Nat) (lease : Lease) :
    (s.abandon lease).memory id = s.memory id := rfl

/-- A new memory leaves those that are there alone. -/
theorem memory_addMemory_of_lt {s : Store} {id : Nat} (h : id < s.memories.length) (m : Memory) :
    (s.addMemory m).memory id = s.memory id := by
  simp [memory, addMemory, List.getElem?_append_left h]

/-- A new memory gets the next number. -/
theorem memory_addMemory (s : Store) (m : Memory) :
    (s.addMemory m).memory s.memories.length = m := by
  simp [memory, addMemory]

/-- A new foreign source gets the next number. -/
theorem foreign_addForeign (s : Store) (f : ForeignSource) :
    (s.addForeign f).foreign s.foreigns.length = f := by
  simp [foreign, addForeign]

end Store
end MemoryLease
