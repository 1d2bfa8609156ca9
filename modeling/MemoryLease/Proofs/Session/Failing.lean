import MemoryLease.Proofs.Session.Holding

/-!
# Acquisitions that fail

A source that owns its memory enters the lease first and states its region then.  If the region does
not meet the contract, the lease goes back, and nothing is left of it (`Store.repay_enter`).  But a
handle may be unable to state a region at all, and then the lease has been entered and nobody holds
it.  A buffer always states one, since no memory grows larger than an allocation can be
(`after_allocated`).  A tensor states one unless it is empty and its extents multiply to more than a
size before the one of zero comes (`Tensor.Fits.region_cases`); reversing the axes makes such a
tensor.  This is the only way in which a failed acquisition leaves anything behind
(`failed_acquisition_leaves_session`).
-/

namespace MemoryLease

/-! ### Going back -/

/-- Giving back what has just been lent leaves the memory as it was. -/
theorem Memory.repaid_lent (m : Memory) (w : Bool) : (m.lent w).repaid w = m := by
  cases w <;> rfl

/-- A lease that is entered and struck out again leaves the store as it was. -/
theorem Store.repay_enter {s : Store} {id : Nat} (present : id < s.memories.length) (c : Contract)
    (w : Bool) : (s.enter c (.memory id w)).repay (.memory id w) = s := by
  have back : s.setMemory id (((s.enter c (.memory id w)).memory id).repaid w) = s := by
    rw [enter, memory_setMemory_self present, Memory.repaid_lent, setMemory_memory]
  have twice : (s.enter c (.memory id w)).repay (.memory id w) =
      s.setMemory id (((s.enter c (.memory id w)).memory id).repaid w) := by
    simp only [repay, enter, setMemory, List.set_set]
  rw [twice, back]

/-- **What a failed request leaves** of a source that owns its memory: nothing, or a lease that is
entered and lost because the source cannot state its region. -/
theorem Store.Acquiring.failed {s : Store} {c : Contract} {source : Source} {id : Nat}
    {made : Effect ExportedView} (h : s.Acquiring c (.source source) made)
    (owned : source.memory? = some id) (present : s.HasSource source) {failure : Failure}
    (failed : made.result = .error failure) :
    made.store = s ∨ ∃ fault, (s.memory id).poisoned = false ∧
      source.region s ((s.memory id).lent c.isWritable) = .error fault ∧
      failure = .faulted fault ∧
      made.store = (s.enter c (.memory id c.isWritable)).abandon (.memory id c.isWritable) := by
  cases h with
  | invalid => exact .inl rfl
  | refused => exact .inl rfl
  | declined => cases owned
  | @lost _ _ fault _ of grants region =>
    obtain rfl := Option.some.inj (owned.symm.trans of)
    obtain rfl := Except.error.inj failed
    cases grants with
    | owned _ _ unpoisoned => exact .inr ⟨fault, unpoisoned, region, rfl, rfl⟩
  | rejected _ grants =>
    have hasLease := grants.hasLease present
    cases grants with
    | foreign => cases owned
    | owned => exact .inl (Store.repay_enter hasLease c _)
  | acquired => cases failed

/-! ### Which handles state a region -/

/-- A buffer can always state its region, unless the lock is poisoned. -/
theorem Buffer.exists_region (b : Buffer) {m : Memory} (unpoisoned : m.poisoned = false)
    (fits : m.size ≤ sizeMax) : ∃ r, b.region m = .ok r := by
  have length := Memory.length_of_unpoisoned unpoisoned
  have bytes : Shape.byteLength? 1 [m.size] = some m.size := by
    simp [Shape.byteLength?, Shape.count?, Shape.countFrom, size?_eq_some_iff.2 ⟨fits, rfl⟩]
  have run : Region.ofBytes (m.base b.memory) m.size = .ok _ :=
    Region.strided_of_byteLength? rfl bytes
  rw [region, length]
  simp only [run]
  exact ⟨_, rfl⟩

/-- **A tensor states its region** unless it is empty and has no count. -/
theorem Tensor.Fits.region_cases {t : Tensor} {m : Memory} (h : t.Fits m) :
    (∃ r, t.region m = .ok r) ∨
      (0 ∈ t.shape ∧ Shape.count? t.shape = none ∧ t.region m = .error .regionTooLarge) := by
  cases hb : Shape.byteLength? m.item.size t.shape with
  | some length =>
    rw [region, Region.strided_of_byteLength? h.strides_length hb]
    exact .inl ⟨_, rfl⟩
  | none =>
    rcases Shape.byteLength?_eq_none_iff.1 hb with uncounted | large
    · refine .inr ⟨?_, Shape.count?_eq_none_iff.2 uncounted, ?_⟩
      · by_contra hz
        exact uncounted (h.counted hz)
      · rw [region, Region.strided_of_too_large h.strides_length hb]
        rfl
    · exact absurd h.bytes_le (Nat.not_le.2 large)

namespace Session

/-! ### The sizes of the memories -/

/-- No memory is larger than an allocation can be. -/
def Allocated (s : Session) : Prop :=
  ∀ id, (s.store.memory id).size ≤ Memory.allocationMax (s.store.memory id).item

/-- A session without memories has none that is larger than an allocation may be. -/
theorem allocated_empty : Allocated {} := fun _ => Nat.zero_le _

variable {s s' : Session} {t : Step} {es : List Event} {name origin : String} {request : Request}
  {source : Source} {id : Nat}

/-- **No move makes a memory larger** than an allocation can be. -/
theorem Move.allocated (m : Move s t es s') (h : s.Allocated) : s'.Allocated := by
  intro id
  rcases m.memory_cases id with place | ⟨-, fresh⟩ | ⟨name, b, -, -, resized⟩
  · rw [place.size, place.item]
    exact h id
  · exact fresh.size_le
  · rw [resized.item]
    rcases resized.size with same | fits
    · rw [same]
      exact h id
    · exact fits

/-- No session ever has a memory that is larger than an allocation may be. -/
theorem after_allocated (hs : s.Sound) (h : s.Allocated) (steps : List Step) :
    (s.after steps).Allocated :=
  after_keeps (P := Allocated) (fun m _ h => m.allocated h) hs h steps

/-! ### Failed acquisitions -/

/-- The handles of a session that own their memory state a region of it in every state of its
account, but for the tensors that are empty and have no count. -/
theorem region_of_value (laid : s.Laid) (allocated : s.Allocated)
    (of : s.value? origin = some (.source source)) (owned : source.memory? = some id)
    (unpoisoned : (s.store.memory id).poisoned = false) (w : Bool) {fault : Fault}
    (h : source.region s.store ((s.store.memory id).lent w) = .error fault) :
    ∃ u, source = .tensor u ∧ 0 ∈ u.shape ∧ Shape.count? u.shape = none ∧
      fault = .regionTooLarge := by
  rw [Source.region_inPlace owned _ (Memory.inPlace_lent _ w)] at h
  cases source with
  | buffer b =>
    obtain rfl := Option.some.inj owned
    obtain ⟨r, hr⟩ := b.exists_region unpoisoned (Memory.le_sizeMax_of_fits (allocated b.memory))
    cases hr.symm.trans h
  | tensor u =>
    obtain rfl := Option.some.inj owned
    rcases (laid.rests_of_value? of).fits.region_cases with ⟨r, hr⟩ | ⟨hz, uncounted, hr⟩
    · cases hr.symm.trans h
    · exact ⟨u, rfl, hz, uncounted, (Except.error.inj (hr.symm.trans h)).symm⟩
  | foreign => cases owned

/-- The session with a lease of a memory that is entered and that nobody holds. -/
def losing (s : Session) (id : Nat) (w : Bool) : Session :=
  { s with store :=
    (s.store.setMemory id ((s.store.memory id).lent w)).abandon (.memory id w) }

/-- **A request that fails** leaves the session as it was, or loses the lease of a tensor without
items whose extents cannot be multiplied from the first one on. -/
theorem failed_acquire (laid : s.Laid) (allocated : s.Allocated)
    (of : s.value? origin = some (.source source)) (owned : source.memory? = some id)
    (failed : ∀ v, (s.acquire name origin request).reply ≠ .answer (.view v)) :
    (s.acquire name origin request).session = s ∨
      ∃ u, source = .tensor u ∧ 0 ∈ u.shape ∧ Shape.count? u.shape = none ∧
        (s.acquire name origin request).reply = .failed (.faulted .regionTooLarge) ∧
        (s.acquire name origin request).session = s.losing id request.contract.isWritable := by
  have outcome := laid.sound.acquiring of request.contract
  rw [acquire_eq name of] at failed ⊢
  cases made : (s.store.acquire (.source source) request.contract).result with
  | ok e =>
    simp only [made] at failed
    exact absurd rfl (failed e.view)
  | error failure =>
    simp only
    rcases outcome.failed owned (laid.sound.hasSource of) made with same |
      ⟨fault, unpoisoned, region, rfl, lost⟩
    · rw [same]
      exact .inl rfl
    · obtain ⟨u, hu, hz, uncounted, rfl⟩ :=
        region_of_value laid allocated of owned unpoisoned _ region
      rw [request.wording_faulted, lost]
      exact .inr ⟨u, hu, hz, uncounted, rfl, rfl⟩

/-- **A failed acquisition leaves nothing behind** on a source that owns its memory, with one
exception: an empty tensor whose extents multiply to more than a size before the one of zero comes
faults when it states its region, and then its lease has been entered.  Bytes and lock are as they
were even then. -/
theorem failed_acquisition_leaves_session (steps : List Step)
    (of : (after {} steps).value? origin = some (.source source))
    (owned : source.memory? = some id)
    (failed : ∀ v, ((after {} steps).step (.acquire name origin request)).reply ≠
      .answer (.view v)) :
    let s := after {} steps
    let turn := s.step (.acquire name origin request)
    turn.session = s ∨
      ∃ u, source = .tensor u ∧ 0 ∈ u.shape ∧ Shape.count? u.shape = none ∧
        turn.reply = .failed (.faulted .regionTooLarge) ∧
        turn.session = s.losing id request.contract.isWritable := by
  intro s turn
  have laid : s.Laid := after_laid laid_empty steps
  have allocated : s.Allocated := after_allocated sound_empty allocated_empty steps
  rcases acquire_step s name origin request with invalid | ⟨-, -, -, asked⟩
  · exact .inl (congrArg Turn.session invalid)
  · have failed : ∀ v, (s.acquire name origin request).reply ≠ .answer (.view v) := asked ▸ failed
    have asked : turn = s.acquire name origin request := asked
    rw [asked]
    exact failed_acquire laid allocated of owned failed

/-- A view for reading a buffer is refused while a pointer for writing is held, and leaves the
session as it was. -/
theorem failed_acquisition_leaves_session_conflict :
    let s := Session.after {} [.create "buffer" (.zeroed 4),
      .acquire "writer" "buffer" (.pointerUnder (.ofFlags [.writable]))]
    (s.step (.acquire "reader" "buffer" (.viewUnder .simple))).session = s := by
  have failed := @failed_acquisition_leaves_session "reader" "buffer" (.viewUnder .simple)
    (.buffer ⟨0, false⟩) 0 [.create "buffer" (.zeroed 4),
      .acquire "writer" "buffer" (.pointerUnder (.ofFlags [.writable]))] rfl rfl nofun
  rcases failed with same | ⟨u, isTensor, -⟩
  · exact same
  · cases isTensor

/-- Reversing the axes puts the extent of zero last, and no count comes as far.  The request faults,
and one view more is counted although nothing is held. -/
theorem failed_acquisition_loses_lease :
    let s := Session.after {} [.create "tensor" (.zeros .uint8 [0, 2 ^ 63, 2] .columnMajor),
      .derive "transposed" "tensor" .transpose]
    let turn := s.step (.acquire "pointer" "transposed" .simplePointer)
    turn.reply = .failed (.faulted .regionTooLarge) ∧ turn.session.holds = [] ∧
      (s.store.memory 0).outstanding = 0 ∧ (turn.session.store.memory 0).outstanding = 1 :=
  ⟨rfl, rfl, rfl, rfl⟩

end Session
end MemoryLease
