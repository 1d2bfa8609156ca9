import MemoryLease.Proofs.Buffer.Bytes
import MemoryLease.Proofs.Tensor.Reindexing

/-!
# What a tensor is made of

A tensor that is made of given items stores them one after the other as they come, in either order.
The order only says which index finds which item: the one whose number is the rank of the index
(`Tensor.get_of_ofItems`).  So a tensor in row-major order lists the items as they have been given,
one in column-major order lists them so when its axes are reversed, and both round trips lose no bit
(`Tensor.ofItems_stores_items`).
-/

namespace MemoryLease

/-! ### Making room -/

/-- The items of a block that is no larger than an offset counts can be allocated: their size
divides the first number that is no offset. -/
theorem Memory.le_allocationMax {item : ItemType} {count : Nat}
    (h : ((count * item.size : Nat) : Int) ≤ offsetMax) :
    count * item.size ≤ allocationMax item := by
  unfold offsetMax at h
  unfold allocationMax
  cases item <;> simp only [ItemType.size] at h ⊢ <;> omega

/-- Bytes that an allocation can hold get a memory. -/
theorem Memory.exists_ofBytes {item : ItemType} {bytes : List UInt8}
    (h : bytes.length ≤ allocationMax item) : ∃ m, ofBytes item bytes = .ok m := by
  rw [ofBytes, dif_pos h]
  exact ⟨_, rfl⟩

/-- The bytes of one of many items. -/
theorem ItemType.take_drop_flatMap_encode (item : ItemType) {items : List Int} {k : Nat} {x : Int}
    (h : items[k]? = some x) :
    ((items.flatMap item.encode).drop (k * item.size)).take item.size = item.encode x := by
  have length := item.length_encode
  induction items generalizing k with
  | nil => simp at h
  | cons y ys ih =>
    rw [List.flatMap_cons]
    cases k with
    | zero =>
      obtain rfl : y = x := by simpa using h
      rw [Nat.zero_mul, List.drop_zero, ← length y, List.take_left]
    | succ k =>
      rw [Nat.succ_mul, Nat.add_comm, ← length y, List.drop_length_add_append, length y]
      exact ih (by simpa using h)

namespace Tensor

open Shape (InBounds columnRank rowRank enumerate)
open Strides (offsetOf)

variable {t : Tensor} {m : Memory} {memory : Nat} {item : ItemType} {items : List Int}
  {shape index : List Nat} {order : MemoryOrder}

/-! ### The item of an index -/

/-- The memory of a tensor of given items holds their bytes, one item after the other. -/
theorem bytes_of_ofItems (h : ofItems memory item items shape order = .ok (m, t)) :
    m.bytes = items.flatMap item.encode :=
  Memory.bytes_of_ofBytes (ofItems_eq_ok_iff.1 h).2.1

/-- **The order says which index finds which item**: the one that as many items stand in front of as
the rank of the index says. -/
theorem get_of_ofItems (h : ofItems memory item items shape order = .ok (m, t)) {x : Int}
    (hb : InBounds shape index) (hx : items[order.rank shape index]? = some x)
    (holds : item.Holds x) : t.get m index = .ok x := by
  obtain ⟨fresh, -, fits, -⟩ := fits_of_ofItems h
  obtain ⟨-, rfl, -, -, laid⟩ := ofItems_eq_ok h
  obtain ⟨-, rfl, canonical⟩ := layOut_eq_ok laid
  have place : (offsetOf t.strides index).toNat = order.rank t.shape index * m.item.size := by
    rw [Strides.offsetOf_of_canonical? canonical hb.length_eq, Nat.mul_comm]
    rfl
  have within : order.rank t.shape index * m.item.size + m.item.size ≤ m.block.size := by
    obtain ⟨forward, inside⟩ := fits.within hb
    have size : m.block.size = m.size := rfl
    omega
  have bytes : m.block.toList = items.flatMap m.item.encode := bytes_of_ofItems h
  rw [fits.get_eq fresh.unpoisoned hb, Tensor.item, place, Block.slice_eq_take_drop within, bytes,
    m.item.take_drop_flatMap_encode hx, ItemType.decode_encode holds]

/-! ### All items -/

/-- A tensor that finds each item at the index whose row-major rank is its number lists the
items. -/
theorem Fits.toList_of_ranks (fits : t.Fits m) (unpoisoned : m.poisoned = false)
    (counted : Shape.count? t.shape = some items.length)
    (finds : ∀ index, InBounds t.shape index → ∀ x, items[rowRank t.shape index]? = some x →
      t.get m index = .ok x) : t.toList m = .ok items := by
  have count := Shape.count?_eq_some counted
  rw [fits.toList_eq unpoisoned (count ▸ counted)]
  refine congrArg Except.ok (Shape.map_enumerate_eq count fun index hb => ?_)
  have stored : rowRank t.shape index < items.length := count ▸ Shape.rowRank_lt hb
  have found := finds index hb _ (List.getElem?_eq_getElem stored)
  rw [fits.get_eq unpoisoned hb] at found
  rw [List.getElem?_eq_getElem stored, Except.ok.inj found]

/-- With the axes reversed the items are at the reversed indexes. -/
theorem Fits.get_transpose (fits : t.Fits m) (unpoisoned : m.poisoned = false)
    (hb : InBounds t.transpose.shape index) :
    t.transpose.get m index = t.get m index.reverse := by
  have displays := shows_transpose fits.strides_length
  rw [fits.transpose.get_eq unpoisoned hb, displays.item_eq hb]
  exact (fits.get_eq unpoisoned (displays.inBounds index hb)).symm

/-- **A tensor in row-major order** lists the items that it is made of. -/
theorem toList_of_ofItems (h : ofItems memory item items shape .rowMajor = .ok (m, t))
    (holds : ∀ x ∈ items, item.Holds x) : t.toList m = .ok items := by
  obtain ⟨fresh, -, fits, -⟩ := fits_of_ofItems h
  obtain ⟨counted, -, laid⟩ := ofItems_eq_ok_iff.1 h
  obtain ⟨-, rfl, -⟩ := layOut_eq_ok laid
  exact fits.toList_of_ranks fresh.unpoisoned counted fun index hb x hx =>
    get_of_ofItems h hb hx (holds x (List.mem_of_getElem? hx))

/-- **A tensor in column-major order** lists the items that it is made of when its axes are
reversed. -/
theorem toList_transpose_of_ofItems
    (h : ofItems memory item items shape .columnMajor = .ok (m, t))
    (holds : ∀ x ∈ items, item.Holds x) (hc : Shape.count? shape.reverse = some items.length) :
    t.transpose.toList m = .ok items := by
  obtain ⟨fresh, -, fits, -⟩ := fits_of_ofItems h
  obtain ⟨-, rfl, -⟩ := layOut_eq_ok (ofItems_eq_ok_iff.1 h).2.2
  refine fits.transpose.toList_of_ranks fresh.unpoisoned hc fun index hb x hx => ?_
  have hb' : InBounds t.shape index.reverse := by
    rwa [← Shape.inBounds_reverse, List.reverse_reverse]
  have rank : rowRank t.transpose.shape index = columnRank t.shape index.reverse := by
    rw [← Shape.rowRank_reverse hb'.length_eq, List.reverse_reverse]
    rfl
  rw [rank] at hx
  rw [fits.get_transpose fresh.unpoisoned hb]
  exact get_of_ofItems h hb' hx (holds x (List.mem_of_getElem? hx))

/-! ### Both orders -/

/-- Positive extents that multiply to a number of items count them, whatever their order. -/
theorem counts_items (positive : 0 ∉ shape) (count : shape.prod = items.length)
    (room : ((items.length * item.size : Nat) : Int) ≤ offsetMax) :
    Shape.count? shape = some items.length := by
  have fewer : items.length ≤ items.length * item.size := Nat.le_mul_of_pos_right _ item.size_pos
  have := offsetMax_lt_sizeMax
  rw [← count]
  exact Shape.count?_of_le positive (by omega)

/-- In the memory that is made of the items there is a tensor of any positive extents that multiply
to their number, in either order. -/
theorem exists_ofItems (positive : 0 ∉ shape) (count : shape.prod = items.length)
    (room : ((items.length * item.size : Nat) : Int) ≤ offsetMax)
    (made : Memory.ofBytes item (items.flatMap item.encode) = .ok m) (memory : Nat)
    (order : MemoryOrder) : ∃ t, ofItems memory item items shape order = .ok (m, t) := by
  have counted := counts_items positive count room
  rw [← count] at room
  exact ⟨_, ofItems_eq_ok_iff.2 ⟨counted, made, layOut_of_le positive room memory order⟩⟩

/-- **A tensor stores the items it is given**, bit by bit.  In row-major order it lists them as they
have been given, and in column-major order it does with its axes reversed.  The item at an index is
in column-major order the one that the rank of the index says, and in row-major order the same one
is at the reversed index of the reversed shape.  The memory is the same for all three. -/
theorem ofItems_stores_items (positive : 0 ∉ shape) (count : shape.prod = items.length)
    (holds : ∀ x ∈ items, item.Holds x)
    (room : ((items.length * item.size : Nat) : Int) ≤ offsetMax) (memory : Nat) :
    ∃ m rows columns reversed, m.bytes = items.flatMap item.encode ∧
      ofItems memory item items shape .rowMajor = .ok (m, rows) ∧
      ofItems memory item items shape .columnMajor = .ok (m, columns) ∧
      ofItems memory item items shape.reverse .rowMajor = .ok (m, reversed) ∧
      rows.toList m = .ok items ∧ columns.transpose.toList m = .ok items ∧
      ∀ index, InBounds shape index → ∃ x, items[columnRank shape index]? = some x ∧
        columns.get m index = .ok x ∧ reversed.get m index.reverse = .ok x := by
  have fitting : (items.flatMap item.encode).length ≤ Memory.allocationMax item := by
    rw [length_flatMap_encode]
    exact Memory.le_allocationMax room
  obtain ⟨m, made⟩ := Memory.exists_ofBytes fitting
  have backwards : 0 ∉ shape.reverse := by simpa using positive
  have same : shape.reverse.prod = items.length := by rw [List.prod_reverse, count]
  obtain ⟨rows, hr⟩ := exists_ofItems positive count room made memory .rowMajor
  obtain ⟨columns, hc⟩ := exists_ofItems positive count room made memory .columnMajor
  obtain ⟨reversed, hv⟩ := exists_ofItems backwards same room made memory .rowMajor
  refine ⟨m, rows, columns, reversed, bytes_of_ofItems hr, hr, hc, hv, toList_of_ofItems hr holds,
    toList_transpose_of_ofItems hc holds (counts_items backwards same room), fun index hb => ?_⟩
  have stored : columnRank shape index < items.length :=
    count ▸ Shape.rank_lt hb .columnMajor
  have hx := List.getElem?_eq_getElem stored
  have hx' : items[rowRank shape.reverse index.reverse]? = some items[columnRank shape index] := by
    rw [Shape.rowRank_reverse hb.length_eq, hx]
  have value := holds _ (List.getElem_mem stored)
  exact ⟨_, hx, get_of_ofItems hc hb hx value,
    get_of_ofItems hv (Shape.inBounds_reverse.2 hb) hx' value⟩

/-- Six floating-point numbers as two rows and three columns, of which the first is none: it has a
payload, and it keeps it. -/
theorem ofItems_stores_items_payload :
    ∃ m columns, ofItems 0 .float32 [2143289345, 1, 2, 3, 4, 5] [2, 3] .columnMajor =
        .ok (m, columns) ∧
      columns.transpose.toList m = .ok [2143289345, 1, 2, 3, 4, 5] ∧
      columns.get m [0, 0] = .ok 2143289345 ∧ columns.get m [1, 2] = .ok 5 := by
  obtain ⟨m, _, columns, _, -, -, made, -, -, list, finds⟩ :=
    @ofItems_stores_items .float32 [2143289345, 1, 2, 3, 4, 5] [2, 3] (by decide) rfl (by decide)
      (by decide) 0
  obtain ⟨first, hf, readFirst, -⟩ := finds [0, 0] (by decide)
  obtain ⟨last, hl, readLast, -⟩ := finds [1, 2] (by decide)
  obtain rfl : 2143289345 = first := Option.some.inj hf
  obtain rfl : 5 = last := Option.some.inj hl
  exact ⟨m, columns, made, list, readFirst, readLast⟩

end Tensor
end MemoryLease
