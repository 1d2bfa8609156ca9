import MemoryLease.Acquisition

/-!
# The account of a memory

A lease is entered into the account of a memory when the memory is lent, and struck out when it
comes back.  What is said here once is what either does: `Memory.register` succeeds exactly on a
memory that is not poisoned and has no conflicting view, and counts one view more
(`register_eq_ok_iff`); `Memory.release` succeeds on one that has the view, and counts one view less
(`release_of_pos`).  Nothing but the two counts changes.
-/

namespace MemoryLease
namespace Memory

/-- The number of outstanding views for writing, or of those for reading. -/
def views (m : Memory) (writable : Bool) : Nat := if writable then m.exclusive else m.shared

/-- The memory with one more outstanding view. -/
def lent (m : Memory) (writable : Bool) : Memory :=
  { m with
    shared := m.shared + if writable then 0 else 1
    exclusive := m.exclusive + if writable then 1 else 0 }

/-- The memory with one outstanding view less. -/
def repaid (m : Memory) (writable : Bool) : Memory :=
  { m with
    shared := m.shared - if writable then 0 else 1
    exclusive := m.exclusive - if writable then 1 else 0 }

@[simp] theorem views_true (m : Memory) : m.views true = m.exclusive := rfl

@[simp] theorem views_false (m : Memory) : m.views false = m.shared := rfl

/-- The outstanding views are those for reading and those for writing. -/
theorem outstanding_eq (m : Memory) : m.outstanding = m.views false + m.views true := rfl

/-- Lending counts one view more of its access, and leaves the other count alone. -/
theorem views_lent (m : Memory) (w w' : Bool) :
    (m.lent w).views w' = m.views w' + if w = w' then 1 else 0 := by
  cases w <;> cases w' <;> rfl

/-- Giving back counts one view less of its access, and leaves the other count alone. -/
theorem views_repaid (m : Memory) (w w' : Bool) :
    (m.repaid w).views w' = m.views w' - if w = w' then 1 else 0 := by
  cases w <;> cases w' <;> rfl

/-! ### What stays in place -/

/-- The block is where it was and as large as it was, and the lock is as it was. -/
structure InPlace (m m' : Memory) : Prop where
  item : m'.item = m.item
  size : m'.size = m.size
  moves : m'.moves = m.moves
  poisoned : m'.poisoned = m.poisoned

theorem InPlace.refl (m : Memory) : m.InPlace m := ⟨rfl, rfl, rfl, rfl⟩

theorem InPlace.trans {m₁ m₂ m₃ : Memory} (h : m₁.InPlace m₂) (h' : m₂.InPlace m₃) :
    m₁.InPlace m₃ :=
  ⟨h'.item.trans h.item, h'.size.trans h.size, h'.moves.trans h.moves,
    h'.poisoned.trans h.poisoned⟩

/-- A memory that is in its place starts where it did. -/
theorem InPlace.base {m m' : Memory} (h : m.InPlace m') (id : Nat) : m'.base id = m.base id := by
  rw [Memory.base, Memory.base, h.size, h.item, h.moves]

/-- Lending leaves a memory in its place. -/
theorem inPlace_lent (m : Memory) (w : Bool) : m.InPlace (m.lent w) := ⟨rfl, rfl, rfl, rfl⟩

/-- Giving back leaves a memory in its place. -/
theorem inPlace_repaid (m : Memory) (w : Bool) : m.InPlace (m.repaid w) := ⟨rfl, rfl, rfl, rfl⟩

/-! ### New memories -/

/-- A memory as it is made: no view of it is outstanding, and its size is one that an allocation
can have. -/
structure Fresh (m : Memory) : Prop where
  views : ∀ w, m.views w = 0
  unpoisoned : m.poisoned = false
  size_le : m.size ≤ allocationMax m.item

/-- A memory whose block is put elsewhere, or whose lock is poisoned in the attempt.  No view of it
is outstanding. -/
structure Resized (m m' : Memory) : Prop where
  unpoisoned : m.poisoned = false
  free : m.outstanding = 0
  item : m'.item = m.item
  size : m'.size = m.size ∨ m'.size ≤ allocationMax m.item

/-- A memory of zeros is fresh, and has the size that was asked for. -/
theorem zeroed_eq_ok {item : ItemType} {size : Nat} {m : Memory} (h : zeroed item size = .ok m) :
    m.Fresh ∧ m.item = item ∧ m.size = size := by
  unfold zeroed at h
  split at h
  · rename_i hs
    obtain rfl := Except.ok.inj h
    exact ⟨⟨fun w => by cases w <;> rfl, rfl, hs⟩, rfl, rfl⟩
  · cases h

/-- A memory of given bytes is fresh, and has room for just these. -/
theorem ofBytes_eq_ok {item : ItemType} {bytes : List UInt8} {m : Memory}
    (h : ofBytes item bytes = .ok m) : m.Fresh ∧ m.item = item ∧ m.size = bytes.length := by
  unfold ofBytes at h
  split at h
  · rename_i hs
    obtain rfl := Except.ok.inj h
    exact ⟨⟨fun w => by cases w <;> rfl, rfl, hs⟩, rfl, rfl⟩
  · cases h

/-! ### Entering and striking out -/

/-- A lock is had exactly if it is not poisoned. -/
theorem lock_eq_ok_iff {m : Memory} : m.lock = .ok () ↔ m.poisoned = false := by
  unfold lock
  cases m.poisoned <;> simp

/-- Whoever takes a poisoned lock faults. -/
theorem lock_of_poisoned {m : Memory} (h : m.poisoned = true) : m.lock = .error .poisonedLock :=
  if_pos h

/-- A memory tells its size, unless the lock is poisoned. -/
theorem length_of_unpoisoned {m : Memory} (h : m.poisoned = false) : m.length = .ok m.size := by
  rw [length, lock_eq_ok_iff.2 h]
  rfl

/-- A memory with a poisoned lock does not tell its size. -/
theorem length_of_poisoned {m : Memory} (h : m.poisoned = true) :
    m.length = .error .poisonedLock := by
  rw [length, lock_of_poisoned h]
  rfl

/-- A view conflicts with none exactly if none for writing is outstanding and, if it is for writing
itself, none for reading either. -/
theorem conflicts_eq_false_iff {m : Memory} {w : Bool} :
    m.conflicts w = false ↔ m.views true = 0 ∧ (w = true → m.views false = 0) := by
  cases w with
  | true =>
    rw [conflicts, if_pos rfl, decide_eq_false_iff_not, outstanding_eq]
    simp only [true_implies]
    omega
  | false => simp [conflicts]

/-- A memory with a poisoned lock enters no view. -/
theorem register_of_poisoned {m : Memory} (h : m.poisoned = true) (w : Bool) :
    m.register w = .error (.faulted .poisonedLock) := by
  rw [register, lock_of_poisoned h]

/-- **Granting.**  A memory whose lock is not poisoned enters a new view unless it conflicts with
those outstanding, and tells how many these are if it does. -/
theorem register_of_not_poisoned {m : Memory} (h : m.poisoned = false) (w : Bool) :
    m.register w = if m.conflicts w then
        .error (.refused (.exportConflict (m.views false) (m.views true)))
      else .ok (m.lent w) := by
  unfold register
  rw [lock_eq_ok_iff.2 h]
  cases w <;> rfl

/-- A view for writing is granted while no view is outstanding. -/
theorem register_for_writing {m : Memory} (h : m.poisoned = false) :
    m.register true = if m.shared + m.exclusive = 0 then .ok (m.lent true)
      else .error (.refused (.exportConflict m.shared m.exclusive)) := by
  have hc : m.conflicts true = !decide (m.shared + m.exclusive = 0) := by
    simp [conflicts, outstanding, Nat.pos_iff_ne_zero]
  rw [register_of_not_poisoned h, hc]
  by_cases hz : m.shared + m.exclusive = 0
  · rw [if_pos hz, decide_eq_true hz]
    rfl
  · rw [if_neg hz, decide_eq_false hz]
    rfl

/-- A view for reading is granted while no view for writing is outstanding. -/
theorem register_for_reading {m : Memory} (h : m.poisoned = false) :
    m.register false = if m.exclusive = 0 then .ok (m.lent false)
      else .error (.refused (.exportConflict m.shared m.exclusive)) := by
  have hc : m.conflicts false = !decide (m.exclusive = 0) := by
    simp [conflicts, Nat.pos_iff_ne_zero]
  rw [register_of_not_poisoned h, hc]
  by_cases hz : m.exclusive = 0
  · rw [if_pos hz, decide_eq_true hz]
    rfl
  · rw [if_neg hz, decide_eq_false hz]
    rfl

/-- A view is entered exactly if the lock is not poisoned and no view conflicts, and then it is
counted. -/
theorem register_eq_ok_iff {m m' : Memory} {w : Bool} :
    m.register w = .ok m' ↔ m.poisoned = false ∧ m.conflicts w = false ∧ m' = m.lent w := by
  cases hp : m.poisoned with
  | true => simp [register_of_poisoned hp]
  | false =>
    rw [register_of_not_poisoned hp]
    cases m.conflicts w <;> simp [eq_comm]

/-- A view that is counted is struck out, unless the lock is poisoned. -/
theorem release_of_pos {m : Memory} {w : Bool} (hp : m.poisoned = false) (hv : 0 < m.views w) :
    m.release w = .ok (m.repaid w) := by
  unfold release
  rw [lock_eq_ok_iff.2 hp]
  cases w with
  | true =>
    have : m.exclusive ≠ 0 := by simpa using Nat.ne_of_gt hv
    simp [this, repaid]
  | false =>
    have : m.shared ≠ 0 := by simpa using Nat.ne_of_gt hv
    simp [this, repaid]

/-! ### Writing -/

/-- What comes of writing bytes to a memory. -/
inductive Writing (m : Memory) (offset : Nat) (data : List UInt8) :
    Memory × Except Fault Unit → Prop
  /-- Nothing changes, the lock included. -/
  | kept {fault : Fault} : Writing m offset data (m, .error fault)
  /-- The bytes are replaced. -/
  | written {block : Block} (unpoisoned : m.poisoned = false)
      (fits : m.block.splice? offset data = some block) :
      Writing m offset data ({ m with block }, .ok ())

/-- **What comes of writing** is one of the listed outcomes. -/
theorem writing (m : Memory) (offset : Nat) (data : List UInt8) :
    m.Writing offset data (m.write offset data) := by
  unfold write
  split
  · exact .kept
  · rename_i hl
    split
    · rename_i fits
      exact .written (lock_eq_ok_iff.1 hl) fits
    · exact .kept

/-- A write that goes well replaces the block, and nothing else. -/
theorem write_eq_ok {m m' : Memory} {offset : Nat} {data : List UInt8}
    (h : m.write offset data = (m', .ok ())) :
    m.poisoned = false ∧ ∃ block, m.block.splice? offset data = some block ∧
      m' = { m with block } := by
  have outcome := m.writing offset data
  rw [h] at outcome
  cases outcome with
  | written unpoisoned fits => exact ⟨unpoisoned, _, fits, rfl⟩

/-- A range within a memory is written. -/
theorem write_of_inside {m : Memory} {offset : Nat} {data : List UInt8}
    (unpoisoned : m.poisoned = false) (inside : offset + data.length ≤ m.size) :
    ∃ m', m.write offset data = (m', .ok ()) := by
  cases written : m.block.splice? offset data with
  | none => exact absurd (Block.splice?_eq_none_iff.1 written) (Nat.not_lt_of_le inside)
  | some block =>
    refine ⟨{ m with block }, ?_⟩
    rw [write, lock_eq_ok_iff.2 unpoisoned]
    simp only [written]

/-- A range that goes on behind the end faults, and the memory and its lock are as they were. -/
theorem write_of_outside {m : Memory} {offset : Nat} {data : List UInt8}
    (unpoisoned : m.poisoned = false) (outside : m.size < offset + data.length) :
    m.write offset data = (m, .error (.rangeOutOfBounds offset data.length m.size)) := by
  rw [write, lock_eq_ok_iff.2 unpoisoned]
  simp only [Block.splice?_eq_none_iff.2 outside]
  rfl

/-- A write under a poisoned lock faults and changes nothing. -/
theorem write_of_poisoned {m : Memory} (poisoned : m.poisoned = true) (offset : Nat)
    (data : List UInt8) : m.write offset data = (m, .error .poisonedLock) := by
  rw [write, lock_of_poisoned poisoned]

/-! ### Resizing -/

/-- A resize to the size that there is asks the allocator for nothing. -/
theorem reallocated_self (m : Memory) (allocator : Block.Allocator) :
    m.reallocated allocator m.size = .ok m :=
  if_pos rfl

/-- **A new size that an allocation can have.**  The bytes up to it are kept and what follows is
zero, on each of the ways that an allocation takes to its new size and whatever the allocator leaves
behind the bytes that it keeps. -/
theorem reallocated_of_fits {m : Memory} {size : Nat} (new : size ≠ m.size)
    (fits : size ≤ allocationMax m.item) (allocator : Block.Allocator) :
    ∃ block : Block, m.reallocated allocator size = .ok { m with block, moves := m.moves + 1 } ∧
      block.toList = (m.block.fitted size (le_sizeMax_of_fits fits)).toList := by
  rw [reallocated, if_neg new]
  by_cases fresh : m.size = 0
  · refine ⟨.zeroed size (le_sizeMax_of_fits fits), ?_, ?_⟩
    · rw [if_pos fresh, zeroed, dif_pos fits]
      rfl
    · have none : m.block.toList = [] :=
        List.length_eq_zero_iff.1 ((Block.length_toList m.block).trans fresh)
      rw [Block.toList_zeroed, Block.toList_fitted, none, List.take_nil, List.nil_append,
        show m.block.size = 0 from fresh, Nat.sub_zero]
  rw [if_neg fresh]
  by_cases gone : size = 0
  · subst gone
    refine ⟨.empty, if_pos rfl, ?_⟩
    rw [Block.empty, Block.toList_zeroed, Block.toList_fitted, List.take_zero, Nat.zero_sub,
      List.nil_append]
  rw [if_neg gone, dif_pos fits]
  refine ⟨_, rfl, ?_⟩
  split
  · rename_i larger
    exact Block.Relocation.toList_zeroedFrom _ larger _
  · rename_i smaller
    exact Block.Relocation.toList_of_le _ (Nat.le_of_not_le smaller) _

/-- A new size that no allocation can have. -/
theorem reallocated_of_excess {m : Memory} {size : Nat} (new : size ≠ m.size)
    (excess : allocationMax m.item < size) (allocator : Block.Allocator) :
    m.reallocated allocator size = .error .allocationTooLarge := by
  rw [reallocated, if_neg new, if_neg (Nat.ne_zero_of_lt excess),
    dif_neg (Nat.not_le_of_lt excess), zeroed, dif_neg (Nat.not_le_of_lt excess)]
  split <;> rfl

/-- What comes of resizing a memory. -/
inductive Resizing (m : Memory) (size : Nat) : Memory × Except Failure Unit → Prop
  /-- Nothing changes, and if the memory gets the size, it is the one that it has. -/
  | kept {result : Except Failure Unit} (same : result = .ok () → size = m.size) :
      Resizing m size (m, result)
  /-- The block gets the new size, while no view is outstanding. -/
  | resized {block : Block} (unpoisoned : m.poisoned = false) (free : m.outstanding = 0)
      (fits : size ≤ allocationMax m.item)
      (fitted : block.toList = (m.block.fitted size (le_sizeMax_of_fits fits)).toList) :
      Resizing m size ({ m with block, moves := m.moves + 1 }, .ok ())
  /-- No block can have the new size, and the lock is poisoned while no view is outstanding. -/
  | poisoned (unpoisoned : m.poisoned = false) (free : m.outstanding = 0)
      (excess : allocationMax m.item < size) :
      Resizing m size ({ m with poisoned := true }, .error (.faulted .allocationTooLarge))

/-- **What comes of resizing** is one of the listed outcomes. -/
theorem resizing (m : Memory) (size : Nat) : Resizing m size (m.resize size) := by
  unfold resize
  split
  · exact .kept nofun
  · rename_i hl
    have hp := lock_eq_ok_iff.1 hl
    split
    · exact .kept nofun
    · rename_i hf
      have free := Nat.eq_zero_of_not_pos hf
      by_cases same : size = m.size
      · subst same
        rw [reallocated_self]
        exact .kept fun _ => rfl
      · rcases Nat.lt_or_ge (allocationMax m.item) size with excess | fits
        · rw [reallocated_of_excess same excess]
          exact .poisoned hp free excess
        · obtain ⟨block, moved, fitted⟩ := reallocated_of_fits same fits .stale
          rw [moved]
          exact .resized hp free fits fitted

end Memory

/-- A handle resizes the memory, or is frozen and keeps it. -/
theorem Buffer.resizing (b : Buffer) (m : Memory) (size : Nat) :
    m.Resizing size (b.resize m size) := by
  unfold resize
  split
  · exact .kept nofun
  · exact m.resizing size

/-- **What comes of writing through a handle**: nothing, or the bytes are replaced, through a handle
that may write. -/
theorem Buffer.write_cases (b : Buffer) (m : Memory) (offset : Nat) (data : List UInt8) :
    (∃ failure, b.write m offset data = (m, .error failure)) ∨
      b.readOnly = false ∧ m.poisoned = false ∧
        ∃ block, m.block.splice? offset data = some block ∧
          b.write m offset data = ({ m with block }, .ok ()) := by
  unfold write
  split
  · exact .inl ⟨_, rfl⟩
  · rename_i access
    have outcome := m.writing offset data
    generalize m.write offset data = written at outcome
    cases outcome with
    | kept => exact .inl ⟨_, rfl⟩
    | written unpoisoned fits =>
      exact .inr ⟨by simpa using access, unpoisoned, _, fits, rfl⟩

/-- A handle that fails to write leaves the memory as it has been. -/
theorem Buffer.write_of_failed {b : Buffer} {m : Memory} {offset : Nat} {data : List UInt8}
    {failure : Failure} (failed : (b.write m offset data).2 = .error failure) :
    b.write m offset data = (m, .error failure) := by
  rcases b.write_cases m offset data with ⟨other, kept⟩ | ⟨-, -, block, -, written⟩
  · rw [kept] at failed ⊢
    rw [← Except.error.inj failed]
  · rw [written] at failed
    cases failed

/-- A handle that may write faults behind the end. -/
theorem Buffer.write_of_outside {b : Buffer} {m : Memory} {offset : Nat} {data : List UInt8}
    (access : b.readOnly = false) (unpoisoned : m.poisoned = false)
    (outside : m.size < offset + data.length) :
    b.write m offset data =
      (m, .error (.faulted (.rangeOutOfBounds offset data.length m.size))) := by
  rw [write, access, Memory.write_of_outside unpoisoned outside]
  rfl

end MemoryLease
