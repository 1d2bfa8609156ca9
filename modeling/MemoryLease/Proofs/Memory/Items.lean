import Mathlib.Algebra.Ring.Int.Defs
import Mathlib.Algebra.GroupWithZero.Nat
import Mathlib.Tactic.Ring
import MemoryLease.Proofs.Lending.Account

/-!
# Items anywhere in a memory

An item is written as the digits of its value to the base 256, the lowest first, and those of a
negative value are its two's complement (`ItemType.getElem?_encode`).  A memory stores a value at an
offset if the bytes there are its digits (`Memory.Stores`), and reading finds exactly the value of
the type that is stored (`Memory.readItem_eq_ok_iff`).  Writing an item changes no byte that is not
one of the item's (`Memory.SameOutside`), and reading looks at no byte that is not
(`Memory.readItem_congr`), so items of any two types that do not overlap are out of each other's
way, wherever they lie (`Memory.items_read_as_written`).
-/

namespace MemoryLease

/-! ### The digits of a value -/

namespace Bytes

/-- Byte `i` of a number is its digit `i` to the base 256. -/
theorem getElem?_ofNat {count i : Nat} (h : i < count) (n : Nat) :
    (ofNat count n)[i]? = some (UInt8.ofNat (n / 256 ^ i)) := by
  induction count generalizing i n with
  | zero => exact absurd h (Nat.not_lt_zero i)
  | succ count ih =>
    cases i with
    | zero => rw [ofNat, List.getElem?_cons_zero, pow_zero, Nat.div_one]
    | succ i =>
      rw [ofNat, List.getElem?_cons_succ, ih (Nat.lt_of_succ_lt_succ h), Nat.div_div_eq_div_mul,
        ← Nat.pow_succ']

end Bytes

/-- The lowest digits of a number are those of its remainder. -/
theorem digit_emod {count i : Nat} (h : i < count) (value : Int) :
    value % 256 ^ count / 256 ^ i % 256 = value / 256 ^ i % 256 := by
  obtain ⟨k, rfl⟩ : ∃ k, count = i + (k + 1) := ⟨count - (i + 1), by omega⟩
  have positive : (256 : Int) ^ i ≠ 0 := pow_ne_zero i (by decide)
  have split : value = value % 256 ^ (i + (k + 1)) +
      256 ^ i * (256 * (256 ^ k * (value / 256 ^ (i + (k + 1))))) := by
    conv_lhs => rw [← Int.emod_add_mul_ediv value (256 ^ (i + (k + 1)))]
    ring
  conv_rhs => rw [split, Int.add_mul_ediv_left _ _ positive, Int.add_mul_emod_self_left]

/-- **The bytes of an item** are the digits of its value, the lowest first.  The digits of a
negative number are its two's complement. -/
theorem ItemType.getElem?_encode {item : ItemType} {i : Nat} (h : i < item.size) (value : Int) :
    ∃ byte, (item.encode value)[i]? = some byte ∧ (byte.toNat : Int) = value / 256 ^ i % 256 := by
  refine ⟨_, Bytes.getElem?_ofNat h _, ?_⟩
  have patterns : (item.patterns : Int) = 256 ^ item.size := by
    exact_mod_cast rfl
  have rest : ((value % item.patterns).toNat : Int) = value % 256 ^ item.size := by
    rw [← patterns]
    exact Int.toNat_of_nonneg (Int.emod_nonneg _ (by exact_mod_cast item.patterns_pos.ne'))
  rw [UInt8.toNat_ofNat', ← digit_emod h value, ← rest]
  norm_cast

namespace Memory

variable {m m' : Memory} {item other : ItemType} {offset start length : Nat} {value : Int}

/-! ### Reading and writing, once the lock is taken -/

/-- An item that lies within the memory is read off the bytes at its offset. -/
theorem readItem_of_inside (unpoisoned : m.poisoned = false)
    (inside : offset + item.size ≤ m.size) :
    m.readItem item offset = .ok (item.decode (m.block.slice offset item.size)) := by
  simp only [readItem, read, lock_eq_ok_iff.2 unpoisoned, Block.slice?_of_le inside]
  rfl

/-- An item that would end behind the memory is out of range. -/
theorem readItem_of_outside (unpoisoned : m.poisoned = false)
    (outside : m.size < offset + item.size) :
    m.readItem item offset = .error (.rangeOutOfBounds offset item.size m.size) := by
  simp only [readItem, read, lock_eq_ok_iff.2 unpoisoned, Block.slice?_eq_none_iff.2 outside]
  rfl

/-- Nothing is read under a poisoned lock. -/
theorem readItem_of_poisoned (poisoned : m.poisoned = true) (item : ItemType) (offset : Nat) :
    m.readItem item offset = .error .poisonedLock := by
  rw [readItem, read, lock_of_poisoned poisoned]
  rfl

/-- Nothing is written under a poisoned lock. -/
theorem writeItem_of_poisoned (poisoned : m.poisoned = true) (item : ItemType) (offset : Nat)
    (value : Int) : m.writeItem item offset value = (m, .error .poisonedLock) :=
  write_of_poisoned poisoned offset (item.encode value)

/-- An item that lies within the memory can be written. -/
theorem exists_writeItem (unpoisoned : m.poisoned = false)
    (inside : offset + item.size ≤ m.size) (value : Int) :
    ∃ m', m.writeItem item offset value = (m', .ok ()) :=
  write_of_inside unpoisoned (by rwa [item.length_encode value])

/-! ### What is stored -/

/-- The bytes at an offset are the digits of a value, the lowest first. -/
def Stores (m : Memory) (item : ItemType) (offset : Nat) (value : Int) : Prop :=
  ∀ i < item.size, ∃ byte, m.bytes[offset + i]? = some byte ∧
    (byte.toNat : Int) = value / 256 ^ i % 256

/-- The byte of a memory at a place is the one in the cell of its block. -/
theorem getElem?_bytes {i : Nat} (h : i < m.size) : m.bytes[i]? = some (m.block.cells.get i) := by
  have inside : i < m.block.toList.length := by rwa [Block.length_toList]
  exact (List.getElem?_eq_getElem inside).trans (congrArg some (Block.getElem_toList inside))

/-- What is stored lies within the memory. -/
theorem Stores.inside (h : m.Stores item offset value) : offset + item.size ≤ m.size := by
  have positive := item.size_pos
  obtain ⟨byte, last, -⟩ := h (item.size - 1) (by omega)
  have range := (List.getElem?_eq_some_iff.1 last).1
  rw [length_bytes] at range
  omega

/-- The bytes of a stored value are those that it is written as. -/
theorem stores_iff (inside : offset + item.size ≤ m.size) :
    m.Stores item offset value ↔ m.block.slice offset item.size = item.encode value := by
  have cell : ∀ i < item.size, (m.block.slice offset item.size)[i]? = m.bytes[offset + i]? := by
    intro i hi
    rw [getElem?_bytes (by omega), Block.slice, List.getElem?_map, List.getElem?_range' hi]
    simp
  constructor
  · intro stores
    apply List.ext_getElem?
    intro i
    by_cases hi : i < item.size
    · obtain ⟨byte, stands, digit⟩ := stores i hi
      obtain ⟨byte', written, digit'⟩ := ItemType.getElem?_encode hi value
      have same : byte = byte' := UInt8.toNat_inj.1 (by omega)
      rw [cell i hi, stands, written, same]
    · rw [List.getElem?_eq_none (by simp [Block.slice]; omega),
        List.getElem?_eq_none (by rw [item.length_encode]; omega)]
  · intro same i hi
    rw [← cell i hi, same]
    exact ItemType.getElem?_encode hi value

/-- **Reading an item** finds the value of its type that is stored, and no other. -/
theorem readItem_eq_ok_iff :
    m.readItem item offset = .ok value ↔
      m.poisoned = false ∧ item.Holds value ∧ m.Stores item offset value := by
  constructor
  · intro read
    cases lock : m.poisoned with
    | true =>
      rw [readItem_of_poisoned lock] at read
      cases read
    | false =>
      rcases Nat.lt_or_ge m.size (offset + item.size) with outside | inside
      · rw [readItem_of_outside lock outside] at read
        cases read
      · rw [readItem_of_inside lock inside] at read
        obtain rfl := Except.ok.inj read
        have length : (m.block.slice offset item.size).length = item.size := by simp [Block.slice]
        exact ⟨rfl, ItemType.holds_decode length,
          (stores_iff inside).2 (ItemType.encode_decode length).symm⟩
  · rintro ⟨unpoisoned, holds, stores⟩
    have inside := stores.inside
    rw [readItem_of_inside unpoisoned inside, (stores_iff inside).1 stores,
      ItemType.decode_encode holds]

/-! ### What does not change -/

/-- Nothing has changed but bytes of a range. -/
structure SameOutside (m m' : Memory) (offset length : Nat) : Prop where
  /-- All but the block is as it was. -/
  others : m' = { m with block := m'.block }
  size : m'.size = m.size
  bytes : ∀ i, i < offset ∨ offset + length ≤ i → m'.bytes[i]? = m.bytes[i]?

/-- A memory that is the same outside a range is in its place. -/
theorem SameOutside.inPlace (same : m.SameOutside m' offset length) : m.InPlace m' := by
  refine ⟨?_, same.size, ?_, ?_⟩ <;> rw [same.others]

/-- **Writing an item** stores its value and changes nothing else. -/
theorem of_writeItem (h : m.writeItem item offset value = (m', .ok ())) :
    m'.Stores item offset value ∧ m.SameOutside m' offset item.size := by
  obtain ⟨-, block, replaced, others⟩ := write_eq_ok h
  obtain rfl : block = m'.block := by rw [others]
  have size : m'.size = m.size := (Block.size_of_splice? replaced).1
  have inside : offset + (item.encode value).length ≤ m.size := (Block.size_of_splice? replaced).2
  have written := Block.slice_of_splice? replaced
  rw [item.length_encode] at inside written
  refine ⟨(stores_iff (by omega)).2 written, others, size, fun i apart => ?_⟩
  rcases Nat.lt_or_ge i m.size with hi | hi
  · have byte : m'.block.slice i 1 = m.block.slice i 1 :=
      Block.slice_of_splice?_of_apart replaced (by rw [item.length_encode]; omega)
    rw [getElem?_bytes hi, getElem?_bytes (by omega)]
    exact congrArg some (List.head_eq_of_cons_eq byte)
  · rw [List.getElem?_eq_none (by rwa [length_bytes, size]),
      List.getElem?_eq_none (by rwa [length_bytes])]

/-- Reading looks at the bytes of the item and at the lock only. -/
theorem readItem_congr (poisoned : m'.poisoned = m.poisoned) (size : m'.size = m.size)
    (bytes : ∀ i, offset ≤ i → i < offset + item.size → m'.bytes[i]? = m.bytes[i]?) :
    m'.readItem item offset = m.readItem item offset := by
  cases lock : m.poisoned with
  | true => rw [readItem_of_poisoned lock, readItem_of_poisoned (poisoned.trans lock)]
  | false =>
    rcases Nat.lt_or_ge m.size (offset + item.size) with outside | inside
    · rw [readItem_of_outside lock outside,
        readItem_of_outside (poisoned.trans lock) (size ▸ outside), size]
    · have slices : m'.block.slice offset item.size = m.block.slice offset item.size := by
        refine List.map_congr_left fun i hi => ?_
        rw [List.mem_range'_1] at hi
        have cells := bytes i hi.1 hi.2
        rw [getElem?_bytes (by omega), getElem?_bytes (by omega)] at cells
        exact Option.some.inj cells
      rw [readItem_of_inside lock inside,
        readItem_of_inside (poisoned.trans lock) (size ▸ inside), slices]

/-- An item outside the range reads the same. -/
theorem SameOutside.readItem (same : m.SameOutside m' offset length)
    (apart : start + other.size ≤ offset ∨ offset + length ≤ start) :
    m'.readItem other start = m.readItem other start :=
  readItem_congr same.inPlace.poisoned same.size fun i _ _ => same.bytes i (by omega)

/-- Storing the value that is stored already changes no byte. -/
theorem SameOutside.bytes_eq (same : m.SameOutside m' offset item.size)
    (before : m.Stores item offset value) (after : m'.Stores item offset value) :
    m'.bytes = m.bytes := by
  apply List.ext_getElem?
  intro i
  by_cases apart : i < offset ∨ offset + item.size ≤ i
  · exact same.bytes i apart
  · obtain ⟨k, rfl⟩ : ∃ k, i = offset + k := ⟨i - offset, by omega⟩
    obtain ⟨byte, old, digit⟩ := before k (by omega)
    obtain ⟨byte', new, digit'⟩ := after k (by omega)
    have same : byte' = byte := UInt8.toNat_inj.1 (by omega)
    rw [old, new, same]

/-! ### Both ways round -/

/-- **An item is read as it has been written**, at any offset where it lies within the memory, and
whatever types the items around it have.  Writing stores the digits of the value and changes no
other byte, so that every item that does not overlap is read as before.  Reading finds the value
whose digits are stored, and writing that value again changes no byte at all; only the tree that
keeps the bytes may get another form, in which zeros take room.  On a memory whose lock is poisoned
neither is carried out. -/
theorem items_read_as_written (inside : offset + item.size ≤ m.size) :
    (m.poisoned = false →
      (∀ value, item.Holds value → ∃ m', m.writeItem item offset value = (m', .ok ()) ∧
        m'.readItem item offset = .ok value ∧ m'.Stores item offset value ∧
        m.SameOutside m' offset item.size ∧
        ∀ other start, start + other.size ≤ offset ∨ offset + item.size ≤ start →
          m'.readItem other start = m.readItem other start) ∧
      ∃ value m', m.readItem item offset = .ok value ∧ item.Holds value ∧
        m.Stores item offset value ∧ m.writeItem item offset value = (m', .ok ()) ∧
        m'.bytes = m.bytes ∧ m' = { m with block := m'.block }) ∧
    (m.poisoned = true → m.readItem item offset = .error .poisonedLock ∧
      ∀ value, m.writeItem item offset value = (m, .error .poisonedLock)) := by
  refine ⟨fun unpoisoned => ⟨fun value holds => ?_, ?_⟩, fun poisoned =>
    ⟨readItem_of_poisoned poisoned item offset, writeItem_of_poisoned poisoned item offset⟩⟩
  · obtain ⟨m', written⟩ := exists_writeItem unpoisoned inside value
    obtain ⟨stores, same⟩ := of_writeItem written
    have read := readItem_eq_ok_iff.2 ⟨same.inPlace.poisoned.trans unpoisoned, holds, stores⟩
    exact ⟨m', written, read, stores, same, fun other start => same.readItem⟩
  · have read := readItem_of_inside unpoisoned inside
    obtain ⟨-, holds, stores⟩ := readItem_eq_ok_iff.1 read
    obtain ⟨m', written⟩ := exists_writeItem unpoisoned inside _
    obtain ⟨stores', same⟩ := of_writeItem written
    exact ⟨_, m', read, holds, stores, written, same.bytes_eq stores stores', same.others⟩

/-- A negative number of four bytes at an odd offset of a memory that is made for larger items, and
the bit pattern of a floating-point value that is no number. -/
theorem items_read_as_written_unaligned :
    let m : Memory := { item := .float64, block := .ofList [1, 2, 3, 4, 5, 6, 7, 8] (by decide) }
    (∃ m', m.writeItem .int32 3 (-2) = (m', .ok ()) ∧ m'.readItem .int32 3 = .ok (-2) ∧
      m'.bytes[3]? = some 254 ∧ m'.readItem .uint8 7 = .ok 8 ∧ m'.readItem .uint16 1 = .ok 770) ∧
    ∃ m', m.writeItem .float32 1 2143289345 = (m', .ok ()) ∧
      m'.readItem .float32 1 = .ok 2143289345 := by
  intro m
  have unpoisoned : m.poisoned = false := rfl
  obtain ⟨writes, -⟩ := (@items_read_as_written m .int32 3 (by decide)).1 unpoisoned
  obtain ⟨m', written, read, stores, -, apart⟩ := writes (-2) (by decide)
  obtain ⟨byte, lowest, digit⟩ := stores 0 (by decide)
  have lowest_eq : byte = 254 := UInt8.toNat_inj.1 (Int.ofNat_inj.1 (digit.trans (by decide)))
  have behind : m.readItem .uint8 7 = .ok 8 := by decide +kernel
  have front : m.readItem .uint16 1 = .ok 770 := by decide +kernel
  obtain ⟨writes', -⟩ := (@items_read_as_written m .float32 1 (by decide)).1 unpoisoned
  obtain ⟨m'', written', read', -⟩ := writes' 2143289345 (by decide)
  exact ⟨⟨m', written, read, lowest_eq ▸ lowest, (apart .uint8 7 (by decide)).trans behind,
    (apart .uint16 1 (by decide)).trans front⟩, m'', written', read'⟩

end Memory
end MemoryLease
