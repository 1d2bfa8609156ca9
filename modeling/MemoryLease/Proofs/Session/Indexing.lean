import MemoryLease.Proofs.Session.Tensors
import MemoryLease.Proofs.Tensor.Writing

/-!
# Indexes that a tensor answers to

The place of an item is a sum of products, and each product and each sum, the conversion of the
whole, and the access to the memory could fault on its own.  For a tensor that fits into its memory
none of them does inside the shape, so the index alone decides (`Tensor.Fits.exists_place_iff`): an
index inside the shape is read and written, and any other one faults.  All tensors of a session fit,
however they have been derived (`tensor_answers_inside_shape`).
-/

namespace MemoryLease
namespace Tensor

open Shape (InBounds)

variable {t : Tensor} {m : Memory} {index : List Nat} {value : Int}

namespace Fits

/-- **The index alone decides** whether an item has a place. -/
theorem exists_place_iff (h : t.Fits m) :
    (∃ offset, t.place index = .ok offset) ↔ InBounds t.shape index := by
  constructor
  · rintro ⟨offset, hp⟩
    exact inBounds_of_place h.strides_length hp
  · intro hb
    exact ⟨_, h.place_eq hb⟩

/-- An index outside the shape has no place. -/
theorem place_of_outside (h : t.Fits m) (outside : ¬ InBounds t.shape index) :
    ∃ fault, t.place index = .error fault := by
  cases hp : t.place index with
  | error fault => exact ⟨fault, rfl⟩
  | ok offset => exact absurd (h.exists_place_iff.1 ⟨offset, hp⟩) outside

/-- Reading an item outside the shape faults. -/
theorem get_of_outside (h : t.Fits m) (outside : ¬ InBounds t.shape index) :
    ∃ fault, t.get m index = .error fault := by
  obtain ⟨fault, hp⟩ := h.place_of_outside outside
  refine ⟨fault, ?_⟩
  rw [Tensor.get, hp]

/-- Replacing an item outside the shape faults, and leaves the memory as it was. -/
theorem set_of_outside (h : t.Fits m) (access : t.readOnly = false)
    (outside : ¬ InBounds t.shape index) (value : Int) :
    ∃ fault, t.set m index value = (m, .error (.faulted fault)) := by
  obtain ⟨fault, hp⟩ := h.place_of_outside outside
  refine ⟨fault, ?_⟩
  simp only [set, access, hp]
  rfl

/-- The place of an item is where the strides say, and the item lies within the memory there. -/
theorem place_within (h : t.Fits m) (hb : InBounds t.shape index) :
    ∃ offset : Nat, t.place index = .ok offset ∧
      (offset : Int) = Strides.offsetOf t.strides index ∧ offset + m.item.size ≤ m.size := by
  obtain ⟨forward, inside⟩ := h.within hb
  refine ⟨_, h.place_eq hb, Int.toNat_of_nonneg forward, ?_⟩
  omega

/-- An item inside the shape is written. -/
theorem exists_set (h : t.Fits m) (unpoisoned : m.poisoned = false) (access : t.readOnly = false)
    (hb : InBounds t.shape index) (value : Int) :
    ∃ m', t.set m index value = (m', .ok ()) := by
  obtain ⟨offset, hp, -, inside⟩ := h.place_within hb
  obtain ⟨m', written⟩ := Memory.exists_writeItem unpoisoned inside value
  refine ⟨m', ?_⟩
  simp only [set, access, hp, written]
  rfl

end Fits

/-- A handle for reading only refuses before it looks at the index. -/
theorem set_of_readOnly (access : t.readOnly = true) (m : Memory) (index : List Nat) (value : Int) :
    t.set m index value = (m, .error (.refused .readOnly)) := by
  rw [set, if_pos access]

end Tensor

namespace Session

open Shape (InBounds)

variable {s : Session} {name : String} {u : Tensor} {index : List Nat}

/-- A tensor answers with the item at an index. -/
theorem get_reply (of : s.value? name = some (.source (.tensor u))) (index : List Nat) :
    (s.step (.call name (.get index))).reply =
      .unlessFaulted ((u.get (s.store.memory u.memory) index).map
        (.item (s.store.memory u.memory).item)) := by
  rw [step_call, call, of]
  rfl

/-- A tensor that replaces an item leaves its memory as the call does. -/
theorem set_turn (of : s.value? name = some (.source (.tensor u))) (index : List Nat)
    (value : Int) :
    s.step (.call name (.set index value)) =
      s.writing u.memory (u.set (s.store.memory u.memory) index value) := by
  rw [step_call, call, of]
  rfl

/-- An index inside the shape is read. -/
theorem Rests.get_inside (rests : s.Rests u) (of : s.value? name = some (.source (.tensor u)))
    (hb : InBounds u.shape index) :
    (s.step (.call name (.get index))).reply =
      .answer (.item (s.store.memory u.memory).item (u.item (s.store.memory u.memory) index)) := by
  rw [get_reply of, rests.fits.get_eq rests.unpoisoned hb]
  rfl

/-- A tensor of a session faults when it is asked for an item outside its shape. -/
theorem Rests.get_outside (rests : s.Rests u) (of : s.value? name = some (.source (.tensor u)))
    (outside : ¬ InBounds u.shape index) :
    ∃ fault, (s.step (.call name (.get index))).reply = .failed (.faulted fault) := by
  obtain ⟨fault, failed⟩ := rests.fits.get_of_outside outside
  refine ⟨fault, ?_⟩
  rw [get_reply of, failed]
  rfl

/-- An index inside the shape is written. -/
theorem Rests.set_inside (rests : s.Rests u) (of : s.value? name = some (.source (.tensor u)))
    (access : u.readOnly = false) (hb : InBounds u.shape index) (value : Int) :
    (s.step (.call name (.set index value))).reply = .answer .done := by
  obtain ⟨m, written⟩ := rests.fits.exists_set rests.unpoisoned access hb value
  rw [set_turn of, written]
  rfl

/-- A tensor of a session faults when it is to replace an item outside its shape, and nothing
changes. -/
theorem Rests.set_outside (rests : s.Rests u) (of : s.value? name = some (.source (.tensor u)))
    (access : u.readOnly = false) (outside : ¬ InBounds u.shape index) (value : Int) :
    ∃ fault, s.step (.call name (.set index value)) =
      s.replying (.failed (.faulted fault)) := by
  obtain ⟨fault, failed⟩ := rests.fits.set_of_outside access outside value
  refine ⟨fault, ?_⟩
  rw [set_turn of, failed, writing_of_failure]

/-- **A tensor answers to the indexes inside its shape.**  Whatever chain of handles it comes from,
a tensor reads the item of an index if the index has one position for each dimension and each
position is less than the extent, and faults at any other index.  A handle that may write writes the
item of just these indexes, and one for reading only refuses every index.  Inside the shape nothing
overflows: the place of the item is where the strides say, and the item lies within the memory. -/
theorem tensor_answers_inside_shape {steps : List Step}
    (of : (after {} steps).value? name = some (.source (.tensor u))) (index : List Nat)
    (value : Int) :
    let s := after {} steps
    let m := s.store.memory u.memory
    ((∃ x, (s.step (.call name (.get index))).reply = .answer (.item m.item x)) ↔
      InBounds u.shape index) ∧
    (¬ InBounds u.shape index →
      ∃ fault, (s.step (.call name (.get index))).reply = .failed (.faulted fault)) ∧
    (u.readOnly = false →
      ((s.step (.call name (.set index value))).reply = .answer .done ↔
        InBounds u.shape index) ∧
      (¬ InBounds u.shape index → ∃ fault, s.step (.call name (.set index value)) =
        s.replying (.failed (.faulted fault)))) ∧
    (u.readOnly = true → s.step (.call name (.set index value)) =
      s.replying (.failed (.refused .readOnly))) ∧
    (InBounds u.shape index → ∃ offset : Nat, u.place index = .ok offset ∧
      (offset : Int) = Strides.offsetOf u.strides index ∧ offset + m.item.size ≤ m.size) := by
  have rests := (after_laid laid_empty steps).rests_of_value? of
  refine ⟨⟨fun ⟨x, answered⟩ => ?_, fun hb => ⟨_, rests.get_inside of hb⟩⟩,
    rests.get_outside of, fun access => ⟨⟨fun done => ?_, fun hb => ?_⟩, fun outside => ?_⟩,
    fun access => ?_, rests.fits.place_within⟩
  · by_contra outside
    obtain ⟨fault, failed⟩ := rests.get_outside of outside
    cases answered.symm.trans failed
  · by_contra outside
    obtain ⟨fault, failed⟩ := rests.set_outside of access outside value
    rw [failed] at done
    cases done
  · exact rests.set_inside of access hb value
  · exact rests.set_outside of access outside value
  · rw [set_turn of, Tensor.set_of_readOnly access, writing_of_failure]

/-- Every other column of a tensor, transposed and for reading only, answers to the last index
inside its shape, faults right behind it, and refuses to write there. -/
theorem tensor_answers_inside_shape_transposed :
    let s := Session.after {} [.create "tensor" (.zeros .uint16 [2, 5] .rowMajor),
      .derive "columns" "tensor" (.step 1 2), .derive "transposed" "columns" .transpose,
      .derive "reader" "transposed" .readOnly]
    (∃ x, (s.step (.call "transposed" (.get [2, 1]))).reply = .answer (.item .uint16 x)) ∧
      (s.step (.call "transposed" (.set [2, 1] 7))).reply = .answer .done ∧
      (∃ fault, s.step (.call "transposed" (.set [3, 0] 7)) =
        s.replying (.failed (.faulted fault))) ∧
      s.step (.call "reader" (.set [3, 0] 7)) = s.replying (.failed (.refused .readOnly)) := by
  have of : (Session.after {} [.create "tensor" (.zeros .uint16 [2, 5] .rowMajor),
      .derive "columns" "tensor" (.step 1 2), .derive "transposed" "columns" .transpose,
      .derive "reader" "transposed" .readOnly]).value? "transposed" =
    some (.source (.tensor { memory := 0, shape := [3, 2], strides := [4, 10] })) := rfl
  have reader : (Session.after {} [.create "tensor" (.zeros .uint16 [2, 5] .rowMajor),
      .derive "columns" "tensor" (.step 1 2), .derive "transposed" "columns" .transpose,
      .derive "reader" "transposed" .readOnly]).value? "reader" =
    some (.source (.tensor
      { memory := 0, shape := [3, 2], strides := [4, 10], readOnly := true })) := rfl
  have inside : InBounds [3, 2] [2, 1] := by decide
  obtain ⟨read, -, write, -⟩ := tensor_answers_inside_shape of [2, 1] 7
  obtain ⟨-, -, behind, -⟩ := tensor_answers_inside_shape of [3, 0] 7
  obtain ⟨-, -, -, refused, -⟩ := tensor_answers_inside_shape reader [3, 0] 7
  exact ⟨read.2 inside, (write rfl).1.2 inside, (behind rfl).2 (by decide), refused rfl⟩

end Session
end MemoryLease
