import MemoryLease.Limits

/-!
# Blocks of bytes

A block is a number of bytes in a row, no more than the address space has.  It is read and written
anywhere, and its allocator gives it another size.  What it holds is told by the list of its bytes
(`Block.toList`): each operation has one lemma that says what it does to that list.  The ranges of
`range_ptr` and the paths of `Allocation.resize` are taken from here.

A fresh block holds zeros only, however large it is, and most of a large block is never written.  So
the bytes are kept as a tree in which a part that holds zeros takes no room (`Block.Cells`).  The
root has the first byte, and its two branches have those at the odd and at the even indexes after
it, so that every byte is found along the binary digits of its index.
-/

namespace MemoryLease

/-- Bytes at all indexes, of which all but finitely many are zero. -/
inductive Block.Cells where
  /-- Zeros only. -/
  | zeros
  /-- The byte at index 0, those at the odd indexes, and those at the even indexes from 2 on. -/
  | node (first : UInt8) (odds evens : Block.Cells)
deriving DecidableEq

/-- A number of bytes in a row. -/
structure Block where
  /-- The number of bytes. -/
  size : Nat
  /-- The bytes. -/
  cells : Block.Cells
  /-- The bytes have addresses. -/
  size_le : size ≤ sizeMax
deriving DecidableEq

namespace Block

namespace Cells

/-- The byte at an index. -/
def get : Cells → Nat → UInt8
  | zeros, _ => 0
  | node b _ _, 0 => b
  | node _ odds evens, i + 1 => if i % 2 = 0 then odds.get (i / 2) else evens.get (i / 2)

/-- The bytes with another one at an index. -/
def set : Cells → Nat → UInt8 → Cells
  | zeros, 0, b => node b zeros zeros
  | zeros, i + 1, b =>
    if i % 2 = 0 then node 0 (zeros.set (i / 2) b) zeros else node 0 zeros (zeros.set (i / 2) b)
  | node _ odds evens, 0, b => node b odds evens
  | node a odds evens, i + 1, b =>
    if i % 2 = 0 then node a (odds.set (i / 2) b) evens else node a odds (evens.set (i / 2) b)
termination_by _ i => i

/-- The bytes with those from an index on replaced. -/
def write (t : Cells) (i : Nat) : List UInt8 → Cells
  | [] => t
  | b :: bs => (t.set i b).write (i + 1) bs

/-- The first bytes, and zeros after them. -/
def take : Cells → Nat → Cells
  | zeros, _ => zeros
  | node _ _ _, 0 => zeros
  | node b odds evens, n + 1 => node b (odds.take ((n + 1) / 2)) (evens.take (n / 2))

@[simp] theorem get_zeros (i : Nat) : zeros.get i = 0 := rfl

/-- **Setting one byte** changes that byte and no other. -/
theorem get_set (t : Cells) (i : Nat) (b : UInt8) (j : Nat) :
    (t.set i b).get j = if j = i then b else t.get j := by
  fun_induction set t i b generalizing j with
  | case1 b => cases j <;> simp [get]
  | case4 a odds evens b => cases j <;> simp [get]
  | case2 i b hi ih | case5 a odds evens i b hi ih =>
    cases j with
    | zero => simp [get]
    | succ j =>
      by_cases hj : j % 2 = 0
      · simp [get, hj, ih, show j / 2 = i / 2 ↔ j = i by omega]
      · simp [get, hj, show j ≠ i by omega]
  | case3 i b hi ih | case6 a odds evens i b hi ih =>
    cases j with
    | zero => simp [get]
    | succ j =>
      by_cases hj : j % 2 = 0
      · simp [get, hj, show j ≠ i by omega]
      · simp [get, hj, ih, show j / 2 = i / 2 ↔ j = i by omega]

/-- **Writing bytes in a row** changes those and no others. -/
theorem get_write (t : Cells) (i : Nat) (bs : List UInt8) (j : Nat) :
    (t.write i bs).get j = if i ≤ j then (bs[j - i]?).getD (t.get j) else t.get j := by
  induction bs generalizing t i with
  | nil => simp [write]
  | cons b bs ih =>
    rw [write, ih, get_set]
    rcases Nat.lt_trichotomy j i with h | rfl | h
    · rw [if_neg (by omega), if_neg (by omega), if_neg (by omega)]
    · rw [if_neg (by omega), if_pos rfl, if_pos (by omega), Nat.sub_self]
      rfl
    · obtain ⟨k, rfl⟩ : ∃ k, j = i + 1 + k := ⟨j - (i + 1), by omega⟩
      rw [if_pos (by omega), if_neg (by omega), if_pos (by omega), Nat.add_sub_cancel_left,
        show i + 1 + k - i = k + 1 by omega, List.getElem?_cons_succ]

/-- **Taking the first bytes** keeps them, and leaves zeros behind them. -/
theorem get_take (t : Cells) (n i : Nat) : (t.take n).get i = if i < n then t.get i else 0 := by
  induction t generalizing n i with
  | zeros => simp [take]
  | node b o e iho ihe =>
    cases n with
    | zero => rfl
    | succ n =>
      cases i with
      | zero => rfl
      | succ i =>
        by_cases hp : i % 2 = 0 <;> simp only [take, get, hp, if_true, if_false, iho, ihe]
        · simp only [show i / 2 < (n + 1) / 2 ↔ i + 1 < n + 1 by omega]
        · simp only [show i / 2 < n / 2 ↔ i + 1 < n + 1 by omega]

end Cells

/-- The bytes of a range of indexes. -/
def slice (b : Block) (offset length : Nat) : List UInt8 :=
  (List.range' offset length).map b.cells.get

/-- The bytes of a block. -/
def toList (b : Block) : List UInt8 := b.slice 0 b.size

/-- A block of zeros. -/
def zeroed (size : Nat) (fits : size ≤ sizeMax) : Block := ⟨size, .zeros, fits⟩

/-- A block without bytes. -/
def empty : Block := zeroed 0 (Nat.zero_le _)

/-- A block of the given bytes. -/
def ofList (bytes : List UInt8) (fits : bytes.length ≤ sizeMax) : Block :=
  ⟨bytes.length, Cells.zeros.write 0 bytes, fits⟩

/-- Whether a range of indexes lies within the block (`range_ptr`).  The end of the range may be
past the address space, and then it does not. -/
def covers (b : Block) (offset length : Nat) : Bool :=
  match size? (offset + length) with
  | some stop => stop ≤ b.size
  | none => false

/-- The bytes of a range, if it lies within the block. -/
def slice? (b : Block) (offset length : Nat) : Option (List UInt8) :=
  if b.covers offset length then some (b.slice offset length) else none

/-- The block with the bytes from an offset on replaced, if they all lie within it. -/
def splice? (b : Block) (offset : Nat) (data : List UInt8) : Option Block :=
  if b.covers offset data.length then some { b with cells := b.cells.write offset data }
  else none

/-! ### Another size -/

/-- A block cut off at a new size, or filled up with zeros to it. -/
def fitted (b : Block) (size : Nat) (fits : size ≤ sizeMax) : Block :=
  ⟨size, b.cells.take (min size b.size), fits⟩

/-- What an allocator may leave of a block when it gives it another size.  The bytes up to the
smaller of the two sizes are as they were.  Nothing is said of those behind them. -/
structure Relocation (b : Block) (size : Nat) where
  /-- The block that the allocator gives. -/
  block : Block
  /-- It has the new size. -/
  size_eq : block.size = size
  /-- The bytes that both blocks have are the same. -/
  kept : ∀ i, i < b.size → i < size → block.cells.get i = b.cells.get i

/-- What is done to give a block another size. -/
def Allocator : Type :=
  (b : Block) → (size : Nat) → size ≤ sizeMax → b.Relocation size

/-- An allocator that leaves behind the bytes it keeps whatever has been there before. -/
def Allocator.stale : Allocator := fun b size fits => ⟨⟨size, b.cells, fits⟩, rfl, fun _ _ _ => rfl⟩

/-- The block with zeros from an index on. -/
def zeroedFrom (b : Block) (start : Nat) : Block := { b with cells := b.cells.take start }

/-! ### What the operations do to the list of bytes -/

/-- A range is covered exactly if it ends within the block; its end is then a size. -/
theorem covers_iff {b : Block} {offset length : Nat} :
    b.covers offset length = true ↔ offset + length ≤ b.size := by
  have within := b.size_le
  unfold covers size?
  split
  · rename_i stop h
    split at h
    · obtain rfl := Option.some.inj h
      exact decide_eq_true_iff
    · cases h
  · rename_i h
    split at h
    · cases h
    · constructor
      · nofun
      · omega

/-- A block lists as many bytes as it has. -/
@[simp] theorem length_toList (b : Block) : b.toList.length = b.size := by
  simp [toList, slice]

/-- The byte at a place of the list is the one in the cell. -/
theorem getElem_toList {b : Block} {i : Nat} (h : i < b.toList.length) :
    b.toList[i] = b.cells.get i := by
  simp [toList, slice]

/-- A new block is all zeros. -/
theorem toList_zeroed {size : Nat} (fits : size ≤ sizeMax) :
    (zeroed size fits).toList = List.replicate size 0 := by
  apply List.ext_getElem
  · simp [zeroed]
  · intro i h₁ h₂
    rw [getElem_toList, List.getElem_replicate]
    rfl

/-- A block that is made of some bytes lists these. -/
theorem toList_ofList {bytes : List UInt8} (fits : bytes.length ≤ sizeMax) :
    (ofList bytes fits).toList = bytes := by
  apply List.ext_getElem
  · simp [ofList]
  · intro i h₁ h₂
    rw [getElem_toList, ofList, Cells.get_write, if_pos (Nat.zero_le i), Nat.sub_zero,
      List.getElem?_eq_getElem h₂]
    rfl

/-- **What fitting a block to a size comes to**: what there is room for is kept, and what is added
is zero. -/
theorem toList_fitted (b : Block) {size : Nat} (fits : size ≤ sizeMax) :
    (b.fitted size fits).toList = b.toList.take size ++ List.replicate (size - b.size) 0 := by
  apply List.ext_getElem
  · simp only [length_toList, List.length_append, List.length_take, List.length_replicate, fitted]
    omega
  · intro i h₁ h₂
    have hs : i < size := by simpa [fitted] using h₁
    rw [getElem_toList, fitted, Cells.get_take]
    by_cases h : i < b.size
    · rw [if_pos (by omega), List.getElem_append_left (by simp; omega), List.getElem_take,
        getElem_toList]
    · rw [if_neg (by omega), List.getElem_append_right (by simp; omega), List.getElem_replicate]

/-- What has the bytes of a block of a size has that size. -/
theorem size_of_fitted {b block : Block} {size : Nat} {fits : size ≤ sizeMax}
    (fitted : block.toList = (b.fitted size fits).toList) : block.size = size := by
  rw [← length_toList, fitted, length_toList]
  rfl

/-- A range within the block. -/
theorem slice_eq_take_drop {b : Block} {offset length : Nat} (h : offset + length ≤ b.size) :
    b.slice offset length = (b.toList.drop offset).take length := by
  apply List.ext_getElem
  · simp [slice]
    omega
  · intro i h₁ h₂
    simp [slice, getElem_toList]

/-- Bytes are read from a range exactly if it lies within the block, and they are those that the
block lists there. -/
theorem slice?_eq_some_iff {b : Block} {part : List UInt8} {offset length : Nat} :
    b.slice? offset length = some part ↔
      offset + length ≤ b.size ∧ part = (b.toList.drop offset).take length := by
  unfold slice?
  split
  · rename_i h
    rw [covers_iff] at h
    simp [h, slice_eq_take_drop h, eq_comm]
  · rename_i h
    rw [covers_iff] at h
    simp [h]

/-- A range within the block is read. -/
theorem slice?_of_le {b : Block} {offset length : Nat} (h : offset + length ≤ b.size) :
    b.slice? offset length = some (b.slice offset length) :=
  if_pos (covers_iff.2 h)

/-- Nothing is read from a range exactly if it ends behind the block, even if its end is no size. -/
theorem slice?_eq_none_iff {b : Block} {offset length : Nat} :
    b.slice? offset length = none ↔ b.size < offset + length := by
  simp [slice?, covers_iff]

/-- Bytes are written exactly if there is room for all of them. -/
theorem splice?_eq_some_iff {b result : Block} {offset : Nat} {data : List UInt8} :
    b.splice? offset data = some result ↔
      offset + data.length ≤ b.size ∧ result = { b with cells := b.cells.write offset data } := by
  rw [← covers_iff, splice?]
  cases b.covers offset data.length <;> simp [eq_comm]

/-- Nothing is written exactly if the bytes would end behind the block. -/
theorem splice?_eq_none_iff {b : Block} {offset : Nat} {data : List UInt8} :
    b.splice? offset data = none ↔ b.size < offset + data.length := by
  simp [splice?, covers_iff]

/-- Writing changes no size. -/
theorem size_of_splice? {b result : Block} {offset : Nat} {data : List UInt8}
    (h : b.splice? offset data = some result) :
    result.size = b.size ∧ offset + data.length ≤ b.size := by
  obtain ⟨inside, rfl⟩ := splice?_eq_some_iff.1 h
  exact ⟨rfl, inside⟩

/-- What has been written stands at its offset, and the bytes in front of it and behind it are as
they were. -/
theorem toList_of_splice? {b result : Block} {offset : Nat} {data : List UInt8}
    (h : b.splice? offset data = some result) :
    result.toList = b.toList.take offset ++ data ++ b.toList.drop (offset + data.length) := by
  obtain ⟨hle, rfl⟩ := splice?_eq_some_iff.1 h
  apply List.ext_getElem
  · simp only [length_toList, List.length_append, List.length_take, List.length_drop]
    omega
  · intro i h₁ h₂
    have hi : i < b.size := by simpa using h₁
    have ht : (b.toList.take offset).length = offset := by simp; omega
    rw [getElem_toList, Cells.get_write]
    by_cases hlow : i < offset
    · rw [if_neg (by omega), List.getElem_append_left (by simp; omega),
        List.getElem_append_left (by omega), List.getElem_take, getElem_toList]
    · rw [if_pos (by omega)]
      by_cases hhigh : i < offset + data.length
      · rw [List.getElem_append_left (by simp; omega), List.getElem_append_right (by omega),
          List.getElem?_eq_getElem (by omega)]
        simp [ht]
      · rw [List.getElem_append_right (by simp; omega), List.getElem?_eq_none (by omega),
          List.getElem_drop, getElem_toList]
        simp only [Option.getD_none, List.length_append, ht]
        congr 1
        omega

/-- What has been written is there. -/
theorem slice_of_splice? {b result : Block} {offset : Nat} {data : List UInt8}
    (h : b.splice? offset data = some result) : result.slice offset data.length = data := by
  obtain ⟨hs, hle⟩ := size_of_splice? h
  have ht : (b.toList.take offset).length = offset := by simp; omega
  rw [slice_eq_take_drop (by omega), toList_of_splice? h, List.append_assoc,
    List.drop_append_of_le_length (by omega), List.drop_of_length_le (by omega), List.nil_append,
    List.take_left]

/-- Bytes that do not meet those written are as they were. -/
theorem slice_of_splice?_of_apart {b result : Block} {offset start length : Nat}
    {data : List UInt8} (h : b.splice? offset data = some result)
    (apart : start + length ≤ offset ∨ offset + data.length ≤ start) :
    result.slice start length = b.slice start length := by
  obtain ⟨hle, rfl⟩ := splice?_eq_some_iff.1 h
  refine List.map_congr_left fun i hi => ?_
  rw [List.mem_range'_1] at hi
  show (b.cells.write offset data).get i = b.cells.get i
  rw [Cells.get_write]
  by_cases hlow : i < offset
  · rw [if_neg (by omega)]
  · rw [if_pos (by omega), List.getElem?_eq_none (by omega), Option.getD_none]

example : ((zeroed 6 (by decide)).splice? 2 [1, 2, 3]).map toList = some [0, 0, 1, 2, 3, 0] := by
  decide +kernel

/-! ### Other sizes -/

/-- Two blocks of one size with the same bytes. -/
theorem toList_congr {b c : Block} (size : b.size = c.size)
    (cells : ∀ i, i < b.size → b.cells.get i = c.cells.get i) : b.toList = c.toList := by
  rw [toList, toList, ← size]
  refine List.map_congr_left fun i hi => cells i ?_
  rw [List.mem_range'_1] at hi
  omega

namespace Relocation

variable {b : Block} {size : Nat}

/-- **A block that gets smaller** is cut off, whatever its allocator leaves. -/
theorem toList_of_le (r : b.Relocation size) (smaller : size ≤ b.size) (fits : size ≤ sizeMax) :
    r.block.toList = (b.fitted size fits).toList := by
  refine toList_congr r.size_eq fun i hi => ?_
  rw [r.size_eq] at hi
  rw [r.kept i (by omega) hi, fitted, Cells.get_take, if_pos (by omega)]

/-- **A block that gets larger** is filled up with zeros once the bytes that its allocator leaves
behind the old ones are overwritten. -/
theorem toList_zeroedFrom (r : b.Relocation size) (larger : b.size ≤ size)
    (fits : size ≤ sizeMax) :
    (r.block.zeroedFrom b.size).toList = (b.fitted size fits).toList := by
  refine toList_congr r.size_eq fun i hi => ?_
  have hi : i < size := Nat.lt_of_lt_of_eq hi r.size_eq
  rw [zeroedFrom, fitted, Cells.get_take, Cells.get_take]
  by_cases old : i < b.size
  · rw [if_pos old, if_pos (by omega), r.kept i old hi]
  · rw [if_neg old, if_neg (by omega)]

end Relocation

/-- What an allocator leaves behind the bytes it keeps is to be seen unless it is overwritten. -/
example : let b := ofList [7, 7, 7] (by decide)
    let short := (Allocator.stale b 1 (by decide)).block
    (Allocator.stale short 3 (by decide)).block.toList = [7, 7, 7] ∧
      ((Allocator.stale short 3 (by decide)).block.zeroedFrom 1).toList = [7, 0, 0] := by
  decide +kernel

end Block
end MemoryLease
