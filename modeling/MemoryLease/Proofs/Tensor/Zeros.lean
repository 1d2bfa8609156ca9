import MemoryLease.Proofs.Tensor.Storing

/-!
# Tensors of zeros

Three limits stand in the way of a new tensor: its items and their bytes are counted and must be a
size, an allocation must not be larger than an offset counts, and each stride must be an offset.
The first two are decided by the number of bytes alone, as long as no extent is zero.  The third
then never decides: a stride of either order is a partial product of the number of bytes, so it is
an offset once the bytes have been allocated (`Tensor.zeros_exist_by_size`).

An empty shape is another matter.  It takes no bytes, but its strides may be too large all the same.
-/

namespace MemoryLease

/-- Zeros are allocated up to the largest allocation, and not past it. -/
theorem Memory.exists_zeroed {item : ItemType} {size : Nat} (h : size ≤ allocationMax item) :
    ∃ m, zeroed item size = .ok m := by
  rw [zeroed, dif_pos h]
  exact ⟨_, rfl⟩

/-- No memory is made that is larger than an allocation may be. -/
theorem Memory.zeroed_of_too_large {item : ItemType} {size : Nat} (h : allocationMax item < size) :
    zeroed item size = .error .allocationTooLarge :=
  dif_neg (Nat.not_le.2 h)

namespace Tensor

variable {item : ItemType} {shape : List Nat}

/-- Up to the largest offset there is room for the items, and for their strides. -/
theorem zeros_of_le (positive : 0 ∉ shape)
    (room : ((shape.prod * item.size : Nat) : Int) ≤ offsetMax) (memory : Nat)
    (order : MemoryOrder) : ∃ m t, zeros memory item shape order = .ok (m, t) ∧
      m.item = item ∧ m.bytes = List.replicate (shape.prod * item.size) 0 ∧ t.memory = memory ∧
      t.shape = shape ∧ t.isContiguous item order = true := by
  have sizes := offsetMax_lt_sizeMax
  have small : shape.prod * item.size ≤ sizeMax := by omega
  have length := Shape.byteLength?_of_le positive item.size_pos small
  have laid := layOut_of_le positive room memory order
  obtain ⟨m, made⟩ := Memory.exists_zeroed (Memory.le_allocationMax room)
  obtain ⟨-, -, strides⟩ := layOut_eq_ok laid
  exact ⟨m, _, zeros_eq_ok_iff.2 ⟨_, length, made, laid⟩, (Memory.zeroed_eq_ok made).2.1,
    Memory.bytes_of_zeroed made, rfl, rfl, Strides.isContiguous_of_canonical? strides small⟩

/-- Past the largest offset the bytes are still counted, but nothing allocates them. -/
theorem zeros_of_unallocatable (positive : 0 ∉ shape)
    (large : offsetMax < ((shape.prod * item.size : Nat) : Int))
    (small : shape.prod * item.size ≤ sizeMax) (memory : Nat) (order : MemoryOrder) :
    zeros memory item shape order = .error .allocationTooLarge := by
  have most := Memory.allocationMax_le_offsetMax item
  have refused : Memory.allocationMax item < shape.prod * item.size := by omega
  rw [zeros, Shape.byteLength?_of_le positive item.size_pos small]
  simp only [Memory.zeroed_of_too_large refused]

/-- Past the largest size the bytes are not even counted. -/
theorem zeros_of_too_large (large : sizeMax < shape.prod * item.size) (memory : Nat)
    (order : MemoryOrder) : zeros memory item shape order = .error .tensorTooLarge := by
  rw [zeros, Shape.byteLength?_eq_none_iff.2 (.inr large)]

/-- **The number of bytes decides whether there is a tensor of zeros.**  A shape without an extent
of zero has one exactly if its bytes are no more than the largest offset.  Past the largest size it
is too large for the address space, in between for an allocation, and its strides are never what is
too large.  The memory is as many bytes as the items take, all of them zero, and the items have no
gaps between them in the order that was asked for. -/
theorem zeros_exist_by_size (positive : 0 ∉ shape) (memory : Nat) (item : ItemType)
    (order : MemoryOrder) :
    let bytes := shape.prod * item.size
    let outcome := zeros memory item shape order
    ((∃ m t, outcome = .ok (m, t)) ↔ (bytes : Int) ≤ offsetMax) ∧
    (outcome.mapError Fault.message = .error "array cannot be larger than the address space" ↔
      sizeMax < bytes) ∧
    (outcome.mapError Fault.message = .error "allocation size overflow or invalid alignment" ↔
      offsetMax < bytes ∧ bytes ≤ sizeMax) ∧
    (∀ other, outcome ≠ .error (.stridesTooLarge other)) ∧
    ∀ m t, outcome = .ok (m, t) → m.item = item ∧ m.bytes = List.replicate bytes 0 ∧
      t.memory = memory ∧ t.shape = shape ∧ t.isContiguous item order = true := by
  intro bytes outcome
  have sizes := offsetMax_lt_sizeMax
  -- each limit has a wording of its own, so the wording tells which one is passed
  have distinct : Fault.tensorTooLarge.message ≠ Fault.allocationTooLarge.message := by decide
  rcases lt_or_ge offsetMax (bytes : Int) with large | room
  · rcases Nat.lt_or_ge sizeMax bytes with larger | small
    · have failed : outcome = .error .tensorTooLarge := zeros_of_too_large larger memory order
      rw [failed]
      refine ⟨⟨nofun, by omega⟩, ⟨fun _ => larger, fun _ => rfl⟩, ⟨fun h => ?_, by omega⟩,
        nofun, nofun⟩
      exact absurd (Except.error.inj h) distinct
    · have failed : outcome = .error .allocationTooLarge :=
        zeros_of_unallocatable positive large small memory order
      rw [failed]
      refine ⟨⟨nofun, by omega⟩, ⟨fun h => ?_, by omega⟩, ⟨fun _ => ⟨large, small⟩, fun _ => rfl⟩,
        nofun, nofun⟩
      exact absurd (Except.error.inj h).symm distinct
  · obtain ⟨m, t, made, described⟩ := zeros_of_le positive room memory order
    have returned : outcome = .ok (m, t) := made
    rw [returned]
    refine ⟨⟨fun _ => room, fun _ => ⟨m, t, rfl⟩⟩, ⟨nofun, by omega⟩, ⟨nofun, by omega⟩, nofun, ?_⟩
    rintro _ _ ⟨⟩
    exact described

/-- A tensor without dimensions is one item.  Two rows of `2 ^ 61` items of two bytes are not
allocated, and two rows twice as long are not counted. -/
theorem zeros_exist_by_size_limits :
    (∃ m t, zeros 0 .float64 [] .columnMajor = .ok (m, t) ∧ m.bytes = List.replicate 8 0) ∧
    (zeros 0 .uint16 [2, 2 ^ 61] .rowMajor).mapError Fault.message =
      .error "allocation size overflow or invalid alignment" ∧
    (zeros 0 .uint16 [2, 2 ^ 62] .rowMajor).mapError Fault.message =
      .error "array cannot be larger than the address space" := by
  obtain ⟨fits, -, -, -, described⟩ :=
    @zeros_exist_by_size [] (by decide) 0 .float64 .columnMajor
  obtain ⟨m, t, made⟩ := fits.2 (by decide)
  obtain ⟨-, -, between, -⟩ :=
    @zeros_exist_by_size [2, 2 ^ 61] (by decide) 0 .uint16 .rowMajor
  obtain ⟨-, past, -⟩ :=
    @zeros_exist_by_size [2, 2 ^ 62] (by decide) 0 .uint16 .rowMajor
  exact ⟨⟨m, t, made, (described m t made).2.1⟩, between.2 (by decide), past.2 (by decide)⟩

end Tensor
end MemoryLease
