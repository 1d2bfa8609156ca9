import MemoryLease.Proofs.Session.Edits
import MemoryLease.Proofs.Session.Holding

/-!
# The bytes of a buffer in a session

A buffer is a plain list of bytes.  Each step tells by its reply what it has done to the list
(`Session.edit`): it replaces bytes, cuts the list off or fills it up with zeros, or leaves it as
it is.  From the buffer's creation on, as long as no resize of it faults, all its handles and
everything that is held of it show what the list has become (`buffer_refines_bytes`).

A step that is to change the bytes of a memory tells so, and any other step is a move that changes
none (`Move.untouched`), since no tensor lies in the memory of a buffer (`OfBytes`).
-/

namespace MemoryLease
namespace Session

variable {s s' : Session} {t : Step} {es : List Event} {name : String} {id : Nat}
  {bytes : List UInt8}

/-! ### The memory of a buffer -/

/-- A memory of bytes, which no tensor lies in. -/
structure OfBytes (s : Session) (id : Nat) : Prop where
  present : id < s.store.memories.length
  item : (s.store.memory id).item = .uint8
  apart : ∀ name u, (name, Value.source (.tensor u)) ∈ s.values → u.memory ≠ id
  /-- What is held of the memory has been acquired through a buffer. -/
  shown : ∀ name h e w, s.hold? name = some h → h.exported? = some e → e.lease = .memory id w →
    ∃ (b : Buffer) (r : Region) (c : Contract),
      b.region (s.store.memory id) = .ok r ∧ r.negotiate c = .ok e.view

namespace Move

/-- The items of a memory are always of the type that it was made for. -/
theorem item (m : Move s t es s') (hid : id < s.store.memories.length) :
    (s'.store.memory id).item = (s.store.memory id).item := by
  rcases m.memory_cases id with place | ⟨rfl, -⟩ | ⟨name, b, -, -, resized⟩
  · exact place.item
  · exact absurd hid (Nat.lt_irrefl _)
  · exact resized.item

/-- **The memory of a buffer** is one of bytes for good. -/
theorem ofBytes (m : Move s t es s') (hs : s.Sound) (hb : s.OfBytes id) : s'.OfBytes id := by
  refine ⟨Nat.lt_of_lt_of_le hb.present m.grows.memories, (m.item hb.present).trans hb.item,
    fun name u hu => ?_, fun name h e w hh he lease => ?_⟩
  · rcases m.tensor_cases hu with ⟨name', derivation, u', hm, made⟩ | ⟨new, -⟩
    · exact Tensor.memory_of_derivation made ▸ hb.apart name' u' hm
    · exact new ▸ Nat.ne_of_gt hb.present
  · rcases m.hold_cases hh he with before | ⟨origin, request, source, -, -, of, acquires, -, place⟩
    · obtain ⟨b, r, c, hr, hn⟩ := hb.shown name h e w before he lease
      have hl := Hold.lease?_of_exported? he lease
      have place := m.inPlace_of_views_pos (hs.canRepay (lease_mem_unreturned before hl)).2
      exact ⟨b, r, c, (Buffer.region_inPlace place).trans hr, hn⟩
    · obtain ⟨owned, -, r, hr, hn⟩ := acquires.owned lease
      cases source with
      | buffer b => exact ⟨b, r, request.contract, (Buffer.region_inPlace (place id)).trans hr, hn⟩
      | tensor u =>
        have apart := hb.apart origin u (Names.mem_of_lookup? of)
        exact absurd (Option.some.inj owned) apart
      | foreign => cases owned

/-- **What is not to change the bytes of a memory** changes none, and does not touch its lock. -/
theorem untouched (m : Move s t es s') (hb : s.OfBytes id) (ha : s.attempt? t = none) :
    (s'.store.memory id).bytes = (s.store.memory id).bytes ∧
      (s'.store.memory id).poisoned = (s.store.memory id).poisoned := by
  have no_buffer : ∀ {name b}, s.value? name = some (.source (.buffer b)) →
      s.bufferOf? name ≠ none := by
    intro name b of hn
    rw [bufferOf?_eq_some_iff.2 ⟨b, of, rfl⟩] at hn
    cases hn
  cases m with
  | create _ made =>
    have same := made.memory_of_lt hb.present
    exact ⟨congrArg Memory.bytes same, congrArg Memory.poisoned same⟩
  | @write _ other _ _ _ writes =>
    cases writes with
    | buffer of => exact absurd (Option.map_eq_none_iff.1 ha) (no_buffer of)
    | tensor of =>
      have apart := hb.apart _ _ (Names.mem_of_lookup? of)
      have same := Store.memory_setMemory_of_ne (s := s.store) apart
      exact ⟨congrArg Memory.bytes (same _), congrArg Memory.poisoned (same _)⟩
    | held of exported _ lease pokes =>
      have there := heldOf?_eq_some_iff.2 ⟨_, _, of, Hold.lease?_of_exported? exported lease⟩
      cases (attempt?_of_poked? there pokes).symm.trans ha
  | resize of => exact absurd (Option.map_eq_none_iff.1 ha) (no_buffer of)
  | poison of => exact absurd (Option.map_eq_none_iff.1 ha) (no_buffer of)
  | lose => exact ⟨Store.bytes_enter _ _ _ id, (Store.inPlace_enter _ _ _ id).poisoned⟩
  | take => exact ⟨Store.bytes_enter _ _ _ id, (Store.inPlace_enter _ _ _ id).poisoned⟩
  | reject =>
    exact ⟨(Store.bytes_repay _ _ id).trans (Store.bytes_enter _ _ _ id),
      ((Store.inPlace_enter _ _ _ id).trans (Store.inPlace_repay _ _ id)).poisoned⟩
  | release => exact ⟨bytes_repay? _ _ id, (inPlace_repay? _ _ id).poisoned⟩
  | consume => exact ⟨bytes_repay? _ _ id, (inPlace_repay? _ _ id).poisoned⟩
  | _ => exact ⟨rfl, rfl⟩

end Move

/-- A memory of bytes whose lock is not poisoned, and the bytes in it. -/
structure Contains (s : Session) (id : Nat) (bytes : List UInt8) : Prop where
  ofBytes : s.OfBytes id
  bytes : (s.store.memory id).bytes = bytes
  unpoisoned : (s.store.memory id).poisoned = false

/-- **One step** of a session edits the bytes of a buffer as its reply tells. -/
theorem step_contains (hs : s.Sound) (hc : s.Contains id bytes) (t : Step)
    (unbroken : s.edit id t ≠ .fault) :
    (s.step t).session.Contains id ((s.edit id t).apply bytes) := by
  have m := step_move hs t
  have still := m.ofBytes hs hc.ofBytes
  cases ha : s.attempt? t with
  | none =>
    obtain ⟨same, lock⟩ := m.untouched hc.ofBytes ha
    have kept : s.edit id t = .keep := by rw [edit, ha]
    rw [kept]
    exact ⟨still, same.trans hc.bytes, lock.trans hc.unpoisoned⟩
  | some target =>
    obtain ⟨other, e⟩ := target
    have outcome := attempted ha
    by_cases h : other = id
    · subst h
      have told : s.edit other t = (s.step t).reply.edit e := by simp only [edit, ha, if_true]
      rw [told] at unbroken ⊢
      generalize s.step t = turn at outcome still unbroken
      cases outcome with
      | done changed lock =>
        have now := Store.memory_setMemory_self hc.ofBytes.present
        refine ⟨still, ?_, (congrArg Memory.poisoned (now _)).trans (lock.trans hc.unpoisoned)⟩
        rw [← hc.bytes]
        exact (congrArg Memory.bytes (now _)).trans changed
      | undone unanswered =>
        refine ⟨still, ?_, hc.unpoisoned⟩
        rw [Reply.apply_edit unanswered]
        exact hc.bytes
      | broken resizing =>
        subst resizing
        exact absurd rfl unbroken
    · have kept : s.edit id t = .keep := by simp only [edit, ha, if_neg h]
      have same := outcome.memory_of_ne h
      rw [kept]
      exact ⟨still, (congrArg Memory.bytes same).trans hc.bytes,
        (congrArg Memory.poisoned same).trans hc.unpoisoned⟩

/-- **A run** of a session edits the bytes of a buffer step by step. -/
theorem after_contains (hs : s.Sound) (hc : s.Contains id bytes) (steps : List Step)
    (unbroken : Edit.fault ∉ s.edits id steps) :
    (s.after steps).Contains id (Edit.replay bytes (s.edits id steps)) := by
  induction steps generalizing s bytes with
  | nil => exact hc
  | cons t steps ih =>
    have first : s.edit id t ≠ .fault := Ne.symm (List.ne_of_not_mem_cons unbroken)
    have rest := List.not_mem_of_not_mem_cons unbroken
    exact ih (step_sound hs t) (step_contains hs hc t first) rest

/-! ### Making a buffer -/

/-- The bytes that a buffer is made with. -/
def Creation.bytes? : Creation → Option (List UInt8)
  | .bytes data | .frozen data => some data
  | .zeroed length => some (List.replicate length 0)
  | _ => none

/-- What a buffer needs in the store is a memory with its bytes. -/
theorem value_of_bytes {s store : Store} {creation : Creation} {v : Value}
    (initial : creation.bytes? = some bytes) (hv : creation.value s = .ok (store, v)) :
    ∃ (m : Memory) (readOnly : Bool), store = s.addMemory m ∧
      v = .source (.buffer ⟨s.memories.length, readOnly⟩) ∧
      m.item = .uint8 ∧ m.bytes = bytes ∧ m.poisoned = false := by
  cases creation with
  | bytes data =>
    obtain rfl := Option.some.inj initial
    obtain ⟨m, hm, he⟩ := map_eq_ok_iff.1 hv
    obtain ⟨fresh, item, -⟩ := Memory.ofBytes_eq_ok hm
    cases he
    exact ⟨m, false, rfl, rfl, item, Memory.bytes_of_ofBytes hm, fresh.unpoisoned⟩
  | frozen data =>
    obtain rfl := Option.some.inj initial
    obtain ⟨m, hm, he⟩ := map_eq_ok_iff.1 hv
    obtain ⟨fresh, item, -⟩ := Memory.ofBytes_eq_ok hm
    cases he
    exact ⟨m, true, rfl, rfl, item, Memory.bytes_of_ofBytes hm, fresh.unpoisoned⟩
  | zeroed length =>
    obtain rfl := Option.some.inj initial
    obtain ⟨m, hm, he⟩ := map_eq_ok_iff.1 hv
    obtain ⟨fresh, item, -⟩ := Memory.zeroed_eq_ok hm
    cases he
    exact ⟨m, false, rfl, rfl, item, Memory.bytes_of_zeroed hm, fresh.unpoisoned⟩
  | _ => cases initial

/-- A creation that is answered has made a value. -/
theorem created_of_reply {creation : Creation} {a : Answer}
    (hr : (s.step (.create name creation)).reply = .answer a) :
    ∃ store v, creation.value s.store = .ok (store, v) ∧ s.isTaken name = false ∧
      (s.step (.create name creation)).session = ({ s with store }).addValue name v := by
  unfold step at hr ⊢
  split at hr
  · cases hr
  · rename_i untaken
    rw [if_neg untaken]
    simp only [create] at hr ⊢
    split at hr
    · cases hr
    · rename_i store v hv
      simp only [introduce] at hr ⊢
      split at hr
      · cases hr
      · exact ⟨store, v, hv, by simpa [Step.newName?] using untaken, rfl⟩

/-- **A buffer that is made** contains the bytes that it is made with. -/
theorem create_contains (hs : s.Sound) {creation : Creation} {a : Answer}
    (initial : creation.bytes? = some bytes)
    (hr : (s.step (.create name creation)).reply = .answer a) :
    let made := (s.step (.create name creation)).session
    made.Contains s.store.memories.length bytes ∧
      ∃ b, made.value? name = some (.source (.buffer b)) ∧ b.memory = s.store.memories.length := by
  obtain ⟨store, v, hv, untaken, session⟩ := created_of_reply hr
  obtain ⟨m, readOnly, rfl, rfl, item, bytes, unpoisoned⟩ := value_of_bytes initial hv
  have now := Store.memory_addMemory s.store m
  rw [session]
  refine ⟨⟨⟨?_, ?_, fun other u hu => ?_, fun held h e w hh he lease => ?_⟩, ?_, ?_⟩, ?_⟩
  · simp [addValue, Store.addMemory]
  · exact (congrArg Memory.item now).trans item
  · rcases Names.mem_of_mem_add hu with hu | hu
    · exact Nat.ne_of_lt (hs.sources other _ hu)
    · cases hu
  · -- no lease of a memory that is just made is held
    have hl := Hold.lease?_of_exported? he lease
    exact absurd (hs.hasLease (lease_mem_unreturned hh hl)) (Nat.lt_irrefl _)
  · exact (congrArg Memory.bytes now).trans bytes
  · exact (congrArg Memory.poisoned now).trans unpoisoned
  · exact ⟨_, Names.lookup?_add_self (isTaken_eq_false_iff.1 untaken).1 _, rfl⟩

/-! ### Reading the bytes -/

namespace Contains

variable {b : Buffer} {h : Hold} {v : ExportedView} {w : Bool}

/-- A buffer tells the bytes that its memory contains. -/
theorem contents_reply (hc : s.Contains b.memory bytes)
    (of : s.value? name = some (.source (.buffer b))) :
    (s.step (.call name .contents)).reply = .answer (.bytes bytes) := by
  have told : (s.store.memory b.memory).contents = .ok bytes := by
    rw [Memory.contents, Memory.lock_eq_ok_iff.2 hc.unpoisoned, ← hc.bytes]
    rfl
  rw [step_call, call, of]
  simp only [callBuffer, told]
  rfl

/-- A buffer tells how many bytes its memory contains. -/
theorem info_reply (hc : s.Contains b.memory bytes)
    (of : s.value? name = some (.source (.buffer b))) :
    (s.step (.call name .info)).reply = .answer (.info (.buffer bytes.length b.readOnly)) := by
  have told : (s.store.memory b.memory).length = .ok bytes.length := by
    rw [Memory.length_of_unpoisoned hc.unpoisoned, ← hc.bytes, Memory.length_bytes]
  rw [step_call, call, of]
  simp only [info, told]
  rfl

/-- Foreign code that walks over a view finds the bytes that the memory contains. -/
theorem walk_reply (hc : s.Contains id bytes) (hh : s.hold? name = some h)
    (hv : h.exported? = some v) (lease : v.lease = .memory id w)
    (reached : s.reached? h = some id) :
    (s.step (.use name .walk)).reply =
      .answer (.items .uint8 (bytes.map fun byte => (byte.toNat : Int))) := by
  obtain ⟨b, r, c, hr, hn⟩ := hc.ofBytes.shown name h v w hh hv lease
  have used : (s.step (.use name .walk)).reply = s.walk h := by
    rw [step_use, use, hh]
    rfl
  rw [used, walk, Hold.shown_of_exported? hv, reached]
  simp only [Buffer.walked_eq hr hn hc.ofBytes.item, hc.bytes, hc.ofBytes.item]

/-- Foreign code that is told where the bytes are reads those of the list. -/
theorem peekAt_eq (hc : s.Contains id bytes) (reached : s.reached? h = some id)
    (address : Address) (item : ItemType) (offset : Nat) :
    s.peekAt h (.ok address) item offset =
      if offset + item.size ≤ bytes.length then
        .answer (.item item (item.decode ((bytes.drop offset).take item.size)))
      else .invalid := by
  simp only [peekAt, reached, Memory.peek_eq, hc.bytes]
  by_cases inside : offset + item.size ≤ bytes.length
  · simp only [if_pos inside]
  · simp only [if_neg inside]

/-- Foreign code that reads through a pointer finds the bytes that the memory contains, as far as
they go. -/
theorem peek_reply {p : Pointer} (hc : s.Contains id bytes)
    (hh : s.hold? name = some (.pointer p)) (hv : p.exported = some v)
    (reached : s.reached? (.pointer p) = some id) (item : ItemType) (offset : Nat) :
    (s.step (.use name (.peek item offset))).reply =
      if offset + item.size ≤ bytes.length then
        .answer (.item item (item.decode ((bytes.drop offset).take item.size)))
      else .invalid := by
  have used : (s.step (.use name (.peek item offset))).reply =
      s.peekAt (.pointer p) p.readAddress item offset := by
    rw [step_use, use, hh]
    rfl
  have address : p.readAddress = .ok v.view.address := by
    simp only [Pointer.readAddress, Pointer.view, hv]
    rfl
  rw [used, address, hc.peekAt_eq reached]

/-- Foreign code that reads at the address of a view finds the bytes that the memory contains, as
far as they go. -/
theorem peekBase_reply (hc : s.Contains id bytes) (hh : s.hold? name = some h)
    (hv : h.exported? = some v) (reached : s.reached? h = some id) (item : ItemType)
    (offset : Nat) :
    (s.step (.use name (.peekBase item offset))).reply =
      if offset + item.size ≤ bytes.length then
        .answer (.item item (item.decode ((bytes.drop offset).take item.size)))
      else .invalid := by
  have used : (s.step (.use name (.peekBase item offset))).reply =
      s.peekAt h (.ok v.view.address) item offset := by
    rw [step_use, use, hh]
    simp only [peekBase, Hold.shown_of_exported? hv]
    rfl
  rw [used, hc.peekAt_eq reached]

/-- What a resize exposes is zero, whatever was there before. -/
theorem exposed_reply (hc : s.Contains b.memory bytes) (hs : s.Sound)
    (of : s.value? name = some (.source (.buffer b))) {size i : Nat} {a : Answer}
    (resized : (s.step (.call name (.resize size))).reply = .answer a) (hi : bytes.length ≤ i)
    (hsize : i < size) :
    ∃ grown, ((s.step (.call name (.resize size))).session.step
      (.call name .contents)).reply = .answer (.bytes grown) ∧ grown[i]? = some 0 := by
  have target : s.attempt? (.call name (.resize size)) = some (b.memory, .resize size) := by
    rw [attempt?, bufferOf?_eq_some_iff.2 ⟨b, of, rfl⟩]
    rfl
  have told : s.edit b.memory (.call name (.resize size)) = .resize size := by
    simp only [edit, target, if_true, resized, Reply.edit]
  have next := step_contains hs hc (.call name (.resize size)) (by simp [told])
  rw [told] at next
  have still : (s.step (.call name (.resize size))).session.value? name =
      some (.source (.buffer b)) := by
    rw [← of, value?, (attempted target).values]
    rfl
  exact ⟨_, next.contents_reply still, Edit.getElem?_apply_resize hi hsize⟩

end Contains

/-- **A buffer is a plain list of bytes.**  From the buffer's creation on, and as long as no resize
of it faults, every step edits the list as its reply tells: what is written replaces bytes, through
a handle, through a pointer or at the base address of a view; a resize keeps the bytes up to the new
size and fills it up with zeros; and everything else, such as a call that fails, leaves the list
alone.  Every handle to the buffer tells the list and its length, and what a resize exposes in it is
zero.  Foreign code finds the list through everything that is held of the buffer, at whatever
address it is told. -/
theorem buffer_refines_bytes (before later : List Step) (name : String) (creation : Creation)
    {a : Answer} (initial : creation.bytes? = some bytes)
    (created : ((after {} before).step (.create name creation)).reply = .answer a)
    (unbroken : Edit.fault ∉ ((after {} before).step (.create name creation)).session.edits
      (after {} before).store.memories.length later) :
    let id := (after {} before).store.memories.length
    let made := ((after {} before).step (.create name creation)).session
    let s := after {} (before ++ .create name creation :: later)
    let now := Edit.replay bytes (made.edits id later)
    (∃ b, made.value? name = some (.source (.buffer b)) ∧ b.memory = id) ∧
    (∀ handle b, s.value? handle = some (.source (.buffer b)) → b.memory = id →
      (s.step (.call handle .contents)).reply = .answer (.bytes now) ∧
      (s.step (.call handle .info)).reply = .answer (.info (.buffer now.length b.readOnly)) ∧
      ∀ size i, (s.step (.call handle (.resize size))).reply = .answer .done →
        now.length ≤ i → i < size →
        ∃ grown, ((s.step (.call handle (.resize size))).session.step
          (.call handle .contents)).reply = .answer (.bytes grown) ∧ grown[i]? = some 0) ∧
    ∀ held h v w, s.hold? held = some h → h.exported? = some v → v.lease = .memory id w →
      (s.step (.use held .walk)).reply =
        .answer (.items .uint8 (now.map fun byte => (byte.toNat : Int))) ∧
      (∀ p item offset, h = .pointer p → (s.step (.use held (.peek item offset))).reply =
        if offset + item.size ≤ now.length then
          .answer (.item item (item.decode ((now.drop offset).take item.size)))
        else .invalid) ∧
      ∀ item offset, (s.step (.use held (.peekBase item offset))).reply =
        if offset + item.size ≤ now.length then
          .answer (.item item (item.decode ((now.drop offset).take item.size)))
        else .invalid := by
  intro id made s now
  have start : (after {} before).Sound := after_sound sound_empty before
  have hs : s.Sound := after_sound sound_empty _
  obtain ⟨first, handle⟩ := create_contains start initial created
  have split : s = made.after later := after_append {} before (.create name creation :: later)
  have hc : s.Contains id now := by
    rw [split]
    exact after_contains (step_sound start _) first later unbroken
  refine ⟨handle, fun other b of hb => ?_, fun held h v w hh hv lease => ?_⟩
  · rw [← hb] at hc
    exact ⟨hc.contents_reply of, hc.info_reply of,
      fun size i resized hi hsize => hc.exposed_reply hs of resized hi hsize⟩
  · obtain ⟨-, -, reached⟩ := held_memory_lives hh (Hold.memory?_of_exported? hv lease)
    refine ⟨hc.walk_reply hh hv lease reached, ?_, hc.peekBase_reply hh hv reached⟩
    rintro p item offset rfl
    exact hc.peek_reply hh hv reached item offset

/-- A buffer is resized, is written through a pointer, refuses to be resized while the pointer is
held, and is cut off and filled up again through a further handle. -/
theorem buffer_refines_bytes_resized :
    let later : List Step := [.derive "other" "buffer" .same, .call "other" (.write 1 [7, 7]),
      .acquire "pointer" "buffer" (.pointerUnder (.ofFlags [.writable])),
      .use "pointer" (.poke .uint16 2 513), .call "buffer" (.resize 9), .drop "pointer",
      .call "other" (.resize 3), .call "buffer" (.resize 5)]
    let s := Session.after {} ([] ++ .create "buffer" (.zeroed 4) :: later)
    (Session.edits ((Session.step {} (.create "buffer" (.zeroed 4))).session) 0 later).filter
        (· ≠ .keep) =
      [.overwrite 1 [7, 7], .overwrite 2 [1, 2], .resize 3, .resize 5] ∧
    (s.step (.call "other" .contents)).reply = .answer (.bytes [0, 7, 1, 0, 0]) ∧
    (s.step (.call "buffer" .info)).reply = .answer (.info (.buffer 5 false)) := by
  have h := buffer_refines_bytes [] [.derive "other" "buffer" .same,
    .call "other" (.write 1 [7, 7]),
    .acquire "pointer" "buffer" (.pointerUnder (.ofFlags [.writable])),
    .use "pointer" (.poke .uint16 2 513), .call "buffer" (.resize 9), .drop "pointer",
    .call "other" (.resize 3), .call "buffer" (.resize 5)] "buffer" (.zeroed 4) rfl rfl (by decide)
  exact ⟨rfl, (h.2.1 "other" _ rfl rfl).1, (h.2.1 "buffer" _ rfl rfl).2.1⟩

end Session
end MemoryLease
