import MemoryLease.Proofs.Lending.Acquiring

/-!
# The bytes of a buffer

What can be done to the bytes of a buffer is told by an `Edit` of a plain list: bytes are replaced
from an offset on, or the list is cut off or filled up with zeros.  Writing to a memory and
resizing it are such edits of its bytes (`Memory.bytes_of_splice?`, `Memory.bytes_fitted`).
Foreign code that has nothing but a view of a buffer finds the bytes of the buffer, in their order
(`Buffer.walked_eq`).
-/

namespace MemoryLease

/-! ### Edits of a list of bytes -/

/-- What a step does to a list of bytes. -/
inductive Edit where
  /-- The bytes stay as they are. -/
  | keep
  /-- The bytes from an offset on are replaced. -/
  | overwrite (offset : Nat) (data : List UInt8)
  /-- The bytes are cut off at a size, or filled up with zeros to it. -/
  | resize (size : Nat)
  /-- A size is asked for that no allocation can have.  What the bytes are after that is not
  told. -/
  | fault
deriving DecidableEq

namespace Edit

/-- The bytes after an edit. -/
def apply : Edit → List UInt8 → List UInt8
  | overwrite offset data, bytes =>
    bytes.take offset ++ data ++ bytes.drop (offset + data.length)
  | resize size, bytes => bytes.take size ++ List.replicate (size - bytes.length) 0
  | keep, bytes | fault, bytes => bytes

/-- The bytes after a list of edits. -/
def replay (bytes : List UInt8) (edits : List Edit) : List UInt8 :=
  edits.foldl (fun bytes e => e.apply bytes) bytes

/-- Resizing to the size that there is changes nothing. -/
theorem apply_resize_length (bytes : List UInt8) : (resize bytes.length).apply bytes = bytes := by
  simp [apply]

/-- What a resize exposes is zero. -/
theorem getElem?_apply_resize {bytes : List UInt8} {size i : Nat} (hi : bytes.length ≤ i)
    (hs : i < size) : ((resize size).apply bytes)[i]? = some 0 := by
  have taken : (bytes.take size).length = bytes.length := by
    rw [List.length_take]
    omega
  rw [apply, List.getElem?_append_right (by omega), taken, List.getElem?_replicate,
    if_pos (by omega)]

end Edit

example : Edit.replay [1, 2, 3, 4] [.resize 2, .overwrite 1 [9], .resize 4] = [1, 9, 0, 0] := by
  decide

/-! ### Edits of a memory -/

namespace Memory

variable {m : Memory}

/-- Writing to the block of a memory overwrites its bytes. -/
theorem bytes_of_splice? {block : Block} {offset : Nat} {data : List UInt8}
    (h : m.block.splice? offset data = some block) :
    block.toList = (Edit.overwrite offset data).apply m.bytes :=
  Block.toList_of_splice? h

/-- Fitting the block of a memory resizes its bytes. -/
theorem bytes_fitted (m : Memory) {size : Nat} (fits : size ≤ sizeMax) :
    (m.block.fitted size fits).toList = (Edit.resize size).apply m.bytes := by
  rw [Block.toList_fitted, Edit.apply, length_bytes]
  rfl

/-- A memory that is made of some bytes holds these. -/
theorem bytes_of_ofBytes {item : ItemType} {bytes : List UInt8} (h : ofBytes item bytes = .ok m) :
    m.bytes = bytes := by
  unfold ofBytes at h
  split at h
  · rename_i fits
    obtain rfl := Except.ok.inj h
    exact Block.toList_ofList (le_sizeMax_of_fits fits)
  · cases h

/-- A memory that is made of zeros holds as many as asked for. -/
theorem bytes_of_zeroed {item : ItemType} {size : Nat} (h : zeroed item size = .ok m) :
    m.bytes = List.replicate size 0 := by
  unfold zeroed at h
  split at h
  · rename_i fits
    obtain rfl := Except.ok.inj h
    exact Block.toList_zeroed (le_sizeMax_of_fits fits)
  · cases h

/-- Foreign code reads an item if all its bytes lie within the memory. -/
theorem peek_eq (m : Memory) (item : ItemType) (offset : Nat) :
    m.peek item offset = if offset + item.size ≤ m.bytes.length then
      some (item.decode ((m.bytes.drop offset).take item.size)) else none := by
  change (m.block.slice? offset item.size).map item.decode = _
  rw [length_bytes]
  by_cases h : offset + item.size ≤ m.size
  · rw [if_pos h, Block.slice?_eq_some_iff.2 ⟨h, rfl⟩]
    rfl
  · rw [if_neg h, Block.slice?_eq_none_iff.2 (Nat.lt_of_not_le h)]
    rfl

end Memory

/-! ### The view of a buffer -/

/-- A byte that is read as an item is its own value. -/
theorem ItemType.decode_uint8 (b : UInt8) : uint8.decode [b] = b.toNat := by
  simp [decode, Bytes.toNat, isSigned]

namespace Buffer

variable {b : Buffer} {m : Memory} {r : Region} {c : Contract} {v : MemoryView}

/-- The region of a buffer is a run of bytes. -/
theorem layout_of_region (h : b.region m = .ok r) :
    r.itemSize = 1 ∧ r.shape = [m.size] ∧ r.strides = [1] := by
  unfold region at h
  split at h
  · cases h
  · rename_i length hl
    obtain ⟨plain, hp, rfl⟩ := map_eq_ok_iff.1 h
    obtain ⟨-, -, rfl⟩ := map_eq_ok_iff.1 hl
    obtain ⟨-, n, -, rfl⟩ := Region.strided_eq_ok hp
    exact ⟨rfl, rfl, rfl⟩

/-- Foreign code looks for the bytes one after the other. -/
theorem itemOffsets_eq (hr : b.region m = .ok r) (hv : r.negotiate c = .ok v) :
    v.itemOffsets = (List.range m.size).map fun i : Nat => (i : Int) := by
  obtain ⟨hi, hs, ht⟩ := layout_of_region hr
  obtain ⟨wf, -⟩ := region_eq_ok hr
  have one : ∀ n, Shape.enumerate [n] = (List.range n).map fun i => [i] := by
    intro n
    rw [Shape.enumerate, List.map_eq_flatMap]
    rfl
  rw [wf.itemOffsets_view hv (by omega), hs, one, List.map_map]
  refine List.map_congr_left fun i _ => ?_
  simp [Region.offsetOf, ht, Strides.offsetOf]

/-- **Foreign code reads the bytes of a buffer**, in their order, from a view of it alone. -/
theorem walked_eq (hr : b.region m = .ok r) (hv : r.negotiate c = .ok v) (hi : m.item = .uint8) :
    Session.walked m v = some (m.bytes.map fun byte => (byte.toNat : Int)) := by
  have byte : ∀ i ∈ List.range m.size,
      m.peek .uint8 (i : Nat) = some (((m.bytes[i]?).getD 0).toNat : Int) := by
    intro i hm
    have inside : i < m.bytes.length := by
      rw [Memory.length_bytes]
      exact List.mem_range.1 hm
    have fits : i + ItemType.uint8.size ≤ m.bytes.length := inside
    rw [Memory.peek_eq, if_pos fits, List.getElem?_eq_getElem inside, Option.getD_some,
      ← ItemType.decode_uint8, List.drop_eq_getElem_cons inside]
    rfl
  rw [Session.walked, itemOffsets_eq hr hv, hi, List.mapM_map]
  refine (Tensor.mapM_eq_some_map byte).trans ?_
  congr 1
  apply List.ext_getElem
  · simp
  · intro i h₁ h₂
    have inside : i < m.bytes.length := by simpa using h₂
    simp [List.getElem?_eq_getElem inside]

end Buffer
end MemoryLease
