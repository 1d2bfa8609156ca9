import MemoryLease.Proofs.Buffer.Bytes
import MemoryLease.Proofs.Session.Failing
import MemoryLease.Proofs.Session.LeftOut
import MemoryLease.Proofs.Session.Poisoned

/-!
# Resizing a buffer

A resize is carried out, or it is refused and leaves no trace (`traceless_resizeRefused`), or it
breaks the buffer.  The handle, the lock, the account and the size that is asked for decide which,
in this order (`resize_outcome`).  What breaks the buffer is a size that no allocation can have: the
fault comes while the lock is held, and poisons it.  The bytes and the account are what they were,
but no handle tells them any more, and none ever will.
-/

namespace MemoryLease

/-! ### What a memory makes of a size -/

namespace Memory

variable {m : Memory} {size : Nat}

/-- A resize under a poisoned lock faults, and changes nothing. -/
theorem resize_of_poisoned (poisoned : m.poisoned = true) (size : Nat) :
    m.resize size = (m, .error (.faulted .poisonedLock)) := by
  rw [resize, lock_of_poisoned poisoned]

/-- A resize while views are outstanding is refused with their number, and changes nothing. -/
theorem resize_of_outstanding (unpoisoned : m.poisoned = false) (held : 0 < m.outstanding)
    (size : Nat) : m.resize size = (m, .error (.refused (.bufferExported m.outstanding))) := by
  rw [resize, lock_eq_ok_iff.2 unpoisoned]
  exact if_pos held

/-- A size that an allocation can have is one that a memory gets, if no view is outstanding. -/
theorem resize_of_fits (unpoisoned : m.poisoned = false) (free : m.outstanding = 0)
    (fits : size ≤ allocationMax m.item) :
    ∃ m', m.resize size = (m', .ok ()) ∧
      m'.bytes = m.bytes.take size ++ List.replicate (size - m.size) 0 ∧
      m'.outstanding = 0 ∧ m'.poisoned = false := by
  have bytes : (Edit.resize size).apply m.bytes =
      m.bytes.take size ++ List.replicate (size - m.size) 0 := by
    rw [Edit.apply, length_bytes]
  rw [resize, lock_eq_ok_iff.2 unpoisoned]
  simp only [free, Nat.lt_irrefl, if_false]
  by_cases same : size = m.size
  · subst same
    refine ⟨m, by rw [reallocated_self], ?_, free, unpoisoned⟩
    rw [← bytes, ← length_bytes, Edit.apply_resize_length]
  · obtain ⟨block, moved, fitted⟩ := reallocated_of_fits same fits .stale
    rw [moved]
    exact ⟨_, rfl, (fitted.trans (bytes_fitted m _)).trans bytes, free, unpoisoned⟩

/-- A size that no allocation can have breaks a memory whose own size is one that it can. -/
theorem resize_of_excess (unpoisoned : m.poisoned = false) (free : m.outstanding = 0)
    (allocated : m.size ≤ allocationMax m.item) (excess : allocationMax m.item < size) :
    m.resize size = ({ m with poisoned := true }, .error (.faulted .allocationTooLarge)) := by
  have new : size ≠ m.size := fun same => Nat.not_lt_of_le allocated (same ▸ excess)
  rw [resize, lock_eq_ok_iff.2 unpoisoned, reallocated_of_excess new excess]
  simp only [free, Nat.lt_irrefl, if_false]
  rfl

end Memory

/-- A handle that is refused a size keeps the memory as it was. -/
theorem Buffer.memory_of_resize_refused {b : Buffer} {m m' : Memory} {size : Nat}
    {failure : Failure} (resized : b.resize m size = (m', .error failure))
    (refused : failure ≠ .faulted .allocationTooLarge) : m' = m := by
  have outcome := b.resizing m size
  rw [resized] at outcome
  cases outcome with
  | kept => rfl
  | poisoned => exact absurd rfl refused

namespace Session

variable {s : Session} {b : Buffer} {name : String} {size : Nat}

/-! ### What a session makes of it -/

/-- A resize leaves what has become of the memory, and is answered with how that went. -/
theorem resize_step (of : s.value? name = some (.source (.buffer b))) {m : Memory}
    {result : Except Failure Unit}
    (resized : b.resize (s.store.memory b.memory) size = (m, result)) :
    (s.step (.call name (.resize size))).session = s.withMemory b.memory m ∧
      (s.step (.call name (.resize size))).reply = .of (result.map fun _ => .done) := by
  rw [resize_turn of, carriedOut, Store.resize, resized]
  exact ⟨rfl, rfl⟩

/-- A resize that fails and keeps the memory leaves the session as it was. -/
theorem resize_step_kept (of : s.value? name = some (.source (.buffer b))) {failure : Failure}
    (kept : b.resize (s.store.memory b.memory) size =
      (s.store.memory b.memory, .error failure)) :
    (s.step (.call name (.resize size))).reply = .failed failure ∧
      (s.step (.call name (.resize size))).session = s := by
  obtain ⟨left, told⟩ := resize_step of kept
  refine ⟨told, left.trans ?_⟩
  rw [withMemory, Store.setMemory_memory]

/-- Only a buffer fails to be resized. -/
theorem buffer_of_resize_failed {failure : Failure}
    (failed : (s.step (.call name (.resize size))).reply = .failed failure) :
    ∃ b, s.value? name = some (.source (.buffer b)) := by
  rw [step_call, call] at failed
  cases of : s.value? name with
  | none =>
    rw [of] at failed
    cases failed
  | some v =>
    rw [of] at failed
    cases v with
    | plain => cases failed
    | source source =>
      cases source with
      | buffer b => exact ⟨b, rfl⟩
      | tensor | foreign => cases failed

/-- A resize that fails, but not because no allocation can have the size. -/
def Step.resizeRefused : Step → Reply → Bool
  | .call _ (.resize _), .failed failure => failure ≠ .faulted .allocationTooLarge
  | _, _ => false

/-- **A resize that is refused leaves no trace.** -/
theorem traceless_resizeRefused : Traceless Step.resizeRefused := by
  intro s t h
  unfold Step.resizeRefused at h
  split at h
  · rename_i name size failure failed
    obtain ⟨b, of⟩ := buffer_of_resize_failed failed
    rcases resized : b.resize (s.store.memory b.memory) size with ⟨m, result⟩
    have told := (resize_step of resized).2
    rw [failed] at told
    cases result with
    | ok => cases told
    | error other =>
      cases told
      obtain rfl := Buffer.memory_of_resize_refused resized (of_decide_eq_true h)
      exact (resize_step_kept of resized).2
  · cases h

/-- The handles of a buffer with a poisoned lock tell neither the bytes nor their number. -/
theorem calls_of_poisoned (of : s.value? name = some (.source (.buffer b)))
    (poisoned : (s.store.memory b.memory).poisoned = true) :
    (s.step (.call name .contents)).reply = .failed (.faulted .poisonedLock) ∧
      (s.step (.call name .info)).reply = .failed (.faulted .poisonedLock) := by
  have contents : (s.store.memory b.memory).contents = .error .poisonedLock := by
    rw [Memory.contents, Memory.lock_of_poisoned poisoned]
    rfl
  have length := Memory.length_of_poisoned poisoned
  rw [step_call, step_call, call, call, of]
  simp only [callBuffer, info, contents, length]
  exact ⟨rfl, rfl⟩

/-- **What a resize comes to.**  A frozen handle refuses it, a poisoned lock makes it fault, and it
is refused while views are outstanding, with their number; the session is as it was then.  Otherwise
a size that an allocation can have is one that the buffer gets: the bytes up to it are kept, what
follows is zero, and the account and the lock are as they were.  A size that no allocation can have
keeps the bytes and the account, but poisons the lock: every later call for the bytes or their
number faults, through any handle.  If the resizes that are refused are taken out of a run, every
other step does, records and replies what it did among them. -/
theorem resize_outcome {steps : List Step}
    (of : (after {} steps).value? name = some (.source (.buffer b))) (size : Nat) :
    let s := after {} steps
    let m := s.store.memory b.memory
    let turn := s.step (.call name (.resize size))
    (b.readOnly = true → turn.reply = .failed (.refused .readOnly) ∧ turn.session = s) ∧
    (b.readOnly = false →
      (m.poisoned = true → turn.reply = .failed (.faulted .poisonedLock) ∧ turn.session = s) ∧
      (m.poisoned = false → 0 < m.outstanding →
        turn.reply = .failed (.refused (.bufferExported m.outstanding)) ∧ turn.session = s) ∧
      (m.poisoned = false → m.outstanding = 0 → size ≤ Memory.allocationMax m.item →
        turn.reply = .answer .done ∧ ∃ m', turn.session = s.withMemory b.memory m' ∧
          m'.bytes = m.bytes.take size ++ List.replicate (size - m.size) 0 ∧
          m'.outstanding = 0 ∧ m'.poisoned = false) ∧
      (m.poisoned = false → m.outstanding = 0 → Memory.allocationMax m.item < size →
        turn.reply = .failed (.faulted .allocationTooLarge) ∧
        turn.session = s.withMemory b.memory { m with poisoned := true } ∧
        ∀ later handle b', b'.memory = b.memory →
          (turn.session.after later).value? handle = some (.source (.buffer b')) →
          ((turn.session.after later).step (.call handle .contents)).reply =
              .failed (.faulted .poisonedLock) ∧
            ((turn.session.after later).step (.call handle .info)).reply =
              .failed (.faulted .poisonedLock))) ∧
    ∀ later, (s.without Step.resizeRefused later).zip
        (s.turns (s.without Step.resizeRefused later)) =
      (later.zip (s.turns later)).filter fun p => !p.1.resizeRefused p.2.reply := by
  intro s m turn
  have hs : s.Sound := after_sound sound_empty steps
  have allocated := after_allocated sound_empty allocated_empty steps b.memory
  have writable : b.readOnly = false → b.resize m size = m.resize size := by
    intro access
    rw [Buffer.resize, access]
    rfl
  refine ⟨fun access => resize_step_kept of (if_pos access), fun access => ⟨fun poisoned => ?_,
    fun unpoisoned held => ?_, fun unpoisoned free fits => ?_, fun unpoisoned free excess => ?_⟩,
    turns_without traceless_resizeRefused s⟩
  · exact resize_step_kept of ((writable access).trans (Memory.resize_of_poisoned poisoned size))
  · exact resize_step_kept of
      ((writable access).trans (Memory.resize_of_outstanding unpoisoned held size))
  · obtain ⟨m', resized, kept⟩ := Memory.resize_of_fits unpoisoned free fits
    obtain ⟨left, told⟩ := resize_step of ((writable access).trans resized)
    exact ⟨told, m', left, kept⟩
  · obtain ⟨left, told⟩ := resize_step of
      ((writable access).trans (Memory.resize_of_excess unpoisoned free allocated excess))
    refine ⟨told, left, fun later handle b' same of' => calls_of_poisoned of' ?_⟩
    have broken : (turn.session.store.memory b.memory).poisoned = true := by
      rw [left, withMemory, Store.memory_setMemory_self (hs.hasSource of)]
    rw [same]
    exact after_poisoned (step_sound hs _) broken later

/-- While a pointer is held, a buffer of two bytes refuses to become one of four and is as it was.
Once the pointer is dropped, it gets the size, and after that it can be broken. -/
theorem resize_outcome_held_pointer :
    let held := Session.after {} [.create "buffer" (.bytes [1, 2]),
      .acquire "pointer" "buffer" .simplePointer]
    let free := Session.after {} [.create "buffer" (.bytes [1, 2]),
      .acquire "pointer" "buffer" .simplePointer, .drop "pointer"]
    (held.step (.call "buffer" (.resize 4))).reply = .failed (.refused (.bufferExported 1)) ∧
      (held.step (.call "buffer" (.resize 4))).session = held ∧
      (free.step (.call "buffer" (.resize 4))).reply = .answer .done ∧
      (free.step (.call "buffer" (.resize (2 ^ 63)))).reply =
        .failed (.faulted .allocationTooLarge) := by
  have of : (Session.after {} [.create "buffer" (.bytes [1, 2]),
      .acquire "pointer" "buffer" .simplePointer]).value? "buffer" =
    some (.source (.buffer ⟨0, false⟩)) := rfl
  have of' : (Session.after {} [.create "buffer" (.bytes [1, 2]),
      .acquire "pointer" "buffer" .simplePointer, .drop "pointer"]).value? "buffer" =
    some (.source (.buffer ⟨0, false⟩)) := rfl
  have refused := ((resize_outcome of 4).2.1 rfl).2.1 rfl Nat.one_pos
  have fits : 4 ≤ Memory.allocationMax .uint8 := by decide
  have excess : Memory.allocationMax .uint8 < 2 ^ 63 := by decide
  have done := ((resize_outcome of' 4).2.1 rfl).2.2.1 rfl rfl fits
  have broken := ((resize_outcome of' (2 ^ 63)).2.1 rfl).2.2.2 rfl rfl excess
  exact ⟨refused.1, refused.2, done.1, broken.1⟩

/-- A buffer of two bytes tells them.  If it is to become larger than an allocation can be, that
faults, and the bytes are not to be had any more. -/
theorem oversized_resize_breaks_buffer :
    let s := Session.after {} [.create "buffer" (.bytes [1, 2])]
    let turn := s.step (.call "buffer" (.resize (2 ^ 63)))
    (s.step (.call "buffer" .contents)).reply = .answer (.bytes [1, 2]) ∧
      turn.reply = .failed (.faulted .allocationTooLarge) ∧
      (turn.session.step (.call "buffer" .contents)).reply = .failed (.faulted .poisonedLock) := by
  intro s turn
  have bytes : (s.store.memory 0).bytes = [1, 2] := Block.toList_ofList (by decide)
  exact ⟨congrArg (fun bytes => Reply.answer (.bytes bytes)) bytes, rfl, rfl⟩

end Session
end MemoryLease
