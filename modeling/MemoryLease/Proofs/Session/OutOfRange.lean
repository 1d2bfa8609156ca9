import MemoryLease.Proofs.Session.Indexing
import MemoryLease.Proofs.Session.LeftOut

/-!
# Calls that miss

A call that writes bytes, or that reads or replaces an item, names a place.  If the place does not
lie within the memory, the call misses: it faults before it has touched anything, and the lock that
it may have taken is given back first.  A write misses exactly if it would go on behind the end of
the buffer, counted without overflow, and a tensor is missed by exactly those indexes that are not
inside its shape.  A call that misses leaves no trace (`traceless_misses`), so a run goes as it
would without the calls that miss (`out_of_range_calls_leave_no_trace`).
-/

namespace MemoryLease

/-- The bytes or the item that a call names are not there. -/
def Fault.isOutOfRange : Fault → Bool
  | rangeOutOfBounds .. | positionCount .. | positionOutOfBounds .. => true
  | offsetOverflow | negativeOffset => true
  | _ => false

/-! ### The place of an item -/

namespace Tensor

/-- Where no place is found for an item, the item is out of range. -/
theorem isOutOfRange_of_placeFrom {total : Int} {shape : List Nat} {strides : List Int}
    {index : List Nat} {fault : Fault} (h : placeFrom total shape strides index = .error fault) :
    fault.isOutOfRange = true := by
  fun_induction placeFrom total shape strides index with
  | case1 | case2 | case3 | case4 =>
    cases h
    rfl
  | case5 _ _ _ _ _ _ _ _ _ _ _ _ _ ih => exact ih h
  | case6 => cases h

/-- Whatever goes wrong when the place of an item is looked for, the item is out of range. -/
theorem isOutOfRange_of_place {t : Tensor} {index : List Nat} {fault : Fault}
    (h : t.place index = .error fault) : fault.isOutOfRange = true := by
  unfold place at h
  split at h
  · cases h
    rfl
  · split at h
    · rename_i other hp
      cases h
      exact isOutOfRange_of_placeFrom hp
    · cases h
    · cases h
      rfl

end Tensor

namespace Session

open Shape (InBounds)

variable {s : Session} {t : Step} {name : String} {id : Nat}

/-! ### Steps that miss -/

/-- The calls that name bytes or an item by its place. -/
def Call.namesPlace : Call → Bool
  | .write .. | .get .. | .set .. => true
  | _ => false

/-- A call that names a place, and that is answered by the fault that the place is not there. -/
def Step.misses : Step → Reply → Bool
  | .call _ c, .failed (.faulted fault) => c.namesPlace && fault.isOutOfRange
  | _, _ => false

/-- A call that fails tells its failure. -/
theorem failed_of_writing {called : Memory × Except Failure Unit} {failure : Failure}
    (h : (s.writing id called).reply = .failed failure) : called.2 = .error failure := by
  obtain ⟨m, result⟩ := called
  cases result with
  | ok => cases h
  | error other =>
    cases h
    rfl

/-- A call that names a place and fails changes nothing and records nothing. -/
theorem call_of_failed {c : Call} {failure : Failure} (placed : c.namesPlace = true)
    (h : (s.call name c).reply = .failed failure) :
    s.call name c = s.replying (.failed failure) := by
  unfold call at h ⊢
  cases of : s.value? name with
  | none =>
    simp only [of] at h
    cases h
  | some v =>
    simp only [of] at h ⊢
    cases v with
    | plain =>
      cases c with
      | write | get | set => cases h
      | _ => cases placed
    | source source =>
      cases source with
      | foreign =>
        cases c with
        | write | get | set => cases h
        | _ => cases placed
      | buffer b =>
        cases c with
        | write =>
          exact (congrArg (s.writing b.memory)
            (Buffer.write_of_failed (failed_of_writing h))).trans (s.writing_of_failure _ _)
        | get | set => cases h
        | _ => cases placed
      | tensor u =>
        cases c with
        | set =>
          exact (congrArg (s.writing u.memory)
            (Tensor.set_of_failed (failed_of_writing h))).trans (s.writing_of_failure _ _)
        | get => exact congrArg s.replying h
        | write => cases h
        | _ => cases placed

/-- A call that misses does nothing but fault. -/
theorem step_of_misses (h : t.misses (s.step t).reply = true) :
    s.step t = s.replying (s.step t).reply := by
  unfold Step.misses at h
  split at h
  · rename_i fault failed
    rw [Bool.and_eq_true] at h
    rw [failed]
    exact call_of_failed h.1 failed
  · cases h

/-- **A call that misses leaves no trace.** -/
theorem traceless_misses : Traceless Step.misses :=
  fun _ _ h => congrArg Turn.session (step_of_misses h)

/-! ### Which steps miss -/

/-- A write is carried out if it ends within the buffer. -/
theorem write_inside {b : Buffer} (of : s.value? name = some (.source (.buffer b)))
    (access : b.readOnly = false) (unpoisoned : (s.store.memory b.memory).poisoned = false)
    {offset : Nat} {data : List UInt8}
    (inside : offset + data.length ≤ (s.store.memory b.memory).size) :
    (s.step (.call name (.write offset data))).reply = .answer .done := by
  obtain ⟨m, written⟩ := Memory.write_of_inside unpoisoned inside
  rw [write_turn of, Buffer.write, access, written]
  rfl

/-- A write that would go on behind the end faults. -/
theorem write_outside {b : Buffer} (of : s.value? name = some (.source (.buffer b)))
    (access : b.readOnly = false) (unpoisoned : (s.store.memory b.memory).poisoned = false)
    {offset : Nat} {data : List UInt8}
    (outside : (s.store.memory b.memory).size < offset + data.length) :
    s.step (.call name (.write offset data)) = s.replying (.failed (.faulted
      (.rangeOutOfBounds offset data.length (s.store.memory b.memory).size))) := by
  rw [write_turn of, Buffer.write_of_outside access unpoisoned outside, writing_of_failure]

/-- Reading misses the indexes outside the shape. -/
theorem Rests.get_misses_iff {u : Tensor} (rests : s.Rests u)
    (of : s.value? name = some (.source (.tensor u))) (index : List Nat) :
    (Step.call name (.get index)).misses (s.step (.call name (.get index))).reply = true ↔
      ¬ InBounds u.shape index := by
  constructor
  · intro missed hb
    rw [rests.get_inside of hb] at missed
    cases missed
  · intro outside
    obtain ⟨fault, hp⟩ := rests.fits.place_of_outside outside
    rw [get_reply of, Tensor.get, hp]
    exact Tensor.isOutOfRange_of_place hp

/-- Writing through a handle that may write misses the indexes outside the shape. -/
theorem Rests.set_misses_iff {u : Tensor} (rests : s.Rests u)
    (of : s.value? name = some (.source (.tensor u))) (access : u.readOnly = false)
    (index : List Nat) (value : Int) :
    (Step.call name (.set index value)).misses (s.step (.call name (.set index value))).reply = true
      ↔ ¬ InBounds u.shape index := by
  constructor
  · intro missed hb
    rw [rests.set_inside of access hb value] at missed
    cases missed
  · intro outside
    obtain ⟨fault, hp⟩ := rests.fits.place_of_outside outside
    rw [set_turn of, Tensor.set, access, hp]
    exact Tensor.isOutOfRange_of_place hp

/-- **Calls out of range leave no trace.**  Through a handle that may write, and if the lock is not
poisoned, a write is carried out exactly if its offset and its length together are at most the size,
however large they are, and faults otherwise.  Reading and writing items misses exactly the indexes
outside the shape.  A call that misses leaves the whole session as it was: the bytes, the views that
are outstanding, and the lock.  So if the calls that miss are taken out of a run, every other step
does, records and replies what it did among them. -/
theorem out_of_range_calls_leave_no_trace (before later : List Step) :
    let s := after {} before
    (∀ name b, s.value? name = some (.source (.buffer b)) → b.readOnly = false →
      let m := s.store.memory b.memory
      m.poisoned = false → ∀ offset data,
        ((s.step (.call name (.write offset data))).reply = .answer .done ↔
          offset + data.length ≤ m.size) ∧
        (m.size < offset + data.length → s.step (.call name (.write offset data)) =
          s.replying (.failed (.faulted (.rangeOutOfBounds offset data.length m.size))))) ∧
    (∀ name u, s.value? name = some (.source (.tensor u)) → ∀ index,
      ((Step.call name (.get index)).misses (s.step (.call name (.get index))).reply = true ↔
        ¬ InBounds u.shape index) ∧
      (u.readOnly = false → ∀ value,
        ((Step.call name (.set index value)).misses
          (s.step (.call name (.set index value))).reply = true ↔ ¬ InBounds u.shape index))) ∧
    (∀ t : Step, t.misses (s.step t).reply = true → s.step t = s.replying (s.step t).reply) ∧
    (s.without Step.misses later).zip (s.turns (s.without Step.misses later)) =
      ((later.zip (s.turns later)).filter fun p => !p.1.misses p.2.reply) ∧
    s.after (s.without Step.misses later) = s.after later := by
  refine ⟨?writes, ?items, fun t => step_of_misses, turns_without traceless_misses _ later,
    after_without traceless_misses _ later⟩
  case writes =>
    intro name b of access m unpoisoned offset data
    refine ⟨⟨fun done => ?_, write_inside of access unpoisoned⟩,
      write_outside of access unpoisoned⟩
    by_contra outside
    rw [write_outside of access unpoisoned (Nat.lt_of_not_le outside)] at done
    cases done
  case items =>
    intro name u of index
    have rests := (after_laid laid_empty before).rests_of_value? of
    exact ⟨rests.get_misses_iff of index,
      fun access value => rests.set_misses_iff of access index value⟩

/-- While a pointer for reading is held, an empty write at the end of the buffer is carried out, a
write at the last offset there is faults, and a run goes on behind two calls that miss as it would
without them. -/
theorem out_of_range_calls_leave_no_trace_held_pointer :
    let s := after {} [.create "buffer" (.bytes [1, 2]),
      .create "tensor" (.zeros .int32 [2] .rowMajor),
      .acquire "pointer" "buffer" .simplePointer]
    let later : List Step := [.call "buffer" (.write (2 ^ 64 - 1) [7]), .call "tensor" (.get [2]),
      .call "buffer" (.write 1 [9]), .call "buffer" .contents]
    (s.step (.call "buffer" (.write 2 []))).reply = .answer .done ∧
      s.step (.call "buffer" (.write (2 ^ 64 - 1) [7])) =
        s.replying (.failed (.faulted (.rangeOutOfBounds (2 ^ 64 - 1) 1 2))) ∧
      (s.without Step.misses later).zip (s.turns (s.without Step.misses later)) =
        (later.zip (s.turns later)).drop 2 := by
  intro s later
  have of : s.value? "buffer" = some (.source (.buffer ⟨0, false⟩)) := rfl
  obtain ⟨writes, -, -, rest, -⟩ := out_of_range_calls_leave_no_trace
    [.create "buffer" (.bytes [1, 2]), .create "tensor" (.zeros .int32 [2] .rowMajor),
      .acquire "pointer" "buffer" .simplePointer] later
  have size : (s.store.memory 0).size = 2 := rfl
  obtain ⟨inside, -⟩ := writes "buffer" _ of rfl rfl 2 []
  obtain ⟨-, outside⟩ := writes "buffer" _ of rfl rfl (2 ^ 64 - 1) [7]
  exact ⟨inside.2 size.ge, outside (by rw [size]; decide), rest.trans rfl⟩

end Session
end MemoryLease
