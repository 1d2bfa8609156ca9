import MemoryLease.Proofs.Session.Sound

/-!
# Every step is a move

Each kind of step is followed through the definitions down to the store once, here, and ends in a
`Move` (`step_move`).  So the accounts of a session are in order after every step (`step_sound`) and
in every session that is reached from one in which they are (`after_sound`).
-/

namespace MemoryLease
namespace Session

open Event (quiet_nil)

variable {s : Session} {name : String}

theorem step_call (s : Session) (name : String) (c : Call) :
    s.step (.call name c) = s.call name c := rfl

theorem step_use (s : Session) (name : String) (usage : Usage) :
    s.step (.use name usage) = s.use name usage := rfl

theorem step_drop (s : Session) (name : String) : s.step (.drop name) = s.drop name := rfl

/-! ### Making values -/

/-- What is created is made with all that has to hold for it. -/
theorem made_of_value {s store : Store} {creation : Creation} {v : Value}
    (h : creation.value s = .ok (store, v)) : Made s store v := by
  cases creation with
  | bytes data =>
    obtain ⟨m, hm, he⟩ := map_eq_ok_iff.1 h
    cases he
    exact .buffer (Memory.ofBytes_eq_ok hm).1
  | zeroed length =>
    obtain ⟨m, hm, he⟩ := map_eq_ok_iff.1 h
    cases he
    exact .buffer (Memory.zeroed_eq_ok hm).1
  | frozen data =>
    obtain ⟨m, hm, he⟩ := map_eq_ok_iff.1 h
    cases he
    exact .buffer (Memory.ofBytes_eq_ok hm).1
  | zeros item shape order =>
    obtain ⟨⟨m, t⟩, hm, he⟩ := map_eq_ok_iff.1 h
    cases he
    obtain ⟨fresh, within, fits, counted⟩ := Tensor.fits_of_zeros hm
    exact .tensor fresh within fits counted
  | items item values shape order =>
    obtain ⟨⟨m, t⟩, hm, he⟩ := map_eq_ok_iff.1 h
    cases he
    obtain ⟨fresh, within, fits, counted⟩ := Tensor.fits_of_ofItems hm
    exact .tensor fresh within fits counted
  | foreign description refusal =>
    cases h
    exact .foreign ⟨rfl, rfl, rfl⟩
  | plain typeName =>
    cases h
    exact .plain

/-- Creating a value makes one, or changes nothing. -/
theorem create_move (untaken : s.isTaken name = false) (creation : Creation) :
    Move s (.create name creation) (s.create name creation).events
      (s.create name creation).session := by
  unfold create
  split
  · exact .rest quiet_nil
  · rename_i store v hv
    unfold introduce
    split
    · exact .rest quiet_nil
    · exact .create untaken (made_of_value hv)

/-- Deriving a handle makes a further one, or changes nothing. -/
theorem derive_move (untaken : s.isTaken name = false) (origin : String)
    (derivation : Derivation) :
    Move s (.derive name origin derivation) (s.derive name origin derivation).events
      (s.derive name origin derivation).session := by
  unfold derive
  split
  · rename_i handle of
    split
    · exact .rest quiet_nil
    · exact .rest quiet_nil
    · rename_i derived made
      unfold introduce
      split
      · exact .rest quiet_nil
      · exact .derive .derive untaken of made
  · exact .rest quiet_nil

/-- Cloning a handle makes a further one, or changes nothing. -/
theorem clone_move (untaken : s.isTaken name = false) (origin : String) :
    Move s (.clone name origin) (s.clone name origin).events (s.clone name origin).session := by
  unfold clone
  split
  · rename_i handle of
    split
    · rename_i same made
      exact .derive .clone untaken of made
    · exact .rest quiet_nil
  · exact .rest quiet_nil

/-! ### Calling values -/

/-- A call to lend that is not made to a source changes nothing.  Any other is put to the source. -/
theorem lend_step (s : Session) (name : String) (c : Contract) :
    s.step (.call name (.lend c)) = s.replying .invalid ∨
      ∃ source, s.value? name = some (.source source) ∧
        s.step (.call name (.lend c)) =
          s.carriedOut (lendToNobody s.store c source) fun g => .text g.record := by
  rw [step_call, call]
  cases of : s.value? name with
  | none => exact .inl rfl
  | some v =>
    cases v with
    | plain => exact .inl rfl
    | source source => exact .inr ⟨source, rfl, rfl⟩

/-- Calling a source to lend changes nothing, asks a foreign source, or loses a lease. -/
theorem lend_move {source : Source} (of : s.value? name = some (.source source)) (c : Contract) :
    Move s (.call name (.lend c)) (lendToNobody s.store c source).events
      { s with store := (lendToNobody s.store c source).store } := by
  have asks := Asks.lend of (c := c)
  have hl := Store.lending s.store c source
  unfold lendToNobody
  generalize s.store.lend c source = lent at hl
  cases hl with
  | readOnly => exact .rest quiet_nil
  | refused => exact .rest quiet_nil
  | declined => exact .ask asks
  | granted grants => exact .lose asks grants
  | lost of grants => exact .lose asks grants

/-- A call that fails and returns the memory as it has been changes nothing. -/
theorem writing_of_failure (s : Session) (id : Nat) (failure : Failure) :
    s.writing id (s.store.memory id, .error failure) = s.replying (.failed failure) := by
  rw [writing, Store.setMemory_memory]
  rfl

/-- A buffer that is written leaves its memory as the call does. -/
theorem write_turn {b : Buffer} (of : s.value? name = some (.source (.buffer b))) (offset : Nat)
    (data : List UInt8) :
    s.step (.call name (.write offset data)) =
      s.writing b.memory (b.write (s.store.memory b.memory) offset data) := by
  rw [step_call, call, of]
  rfl

/-- A buffer that is resized leaves the store as the call does. -/
theorem resize_turn {b : Buffer} (of : s.value? name = some (.source (.buffer b))) (size : Nat) :
    s.step (.call name (.resize size)) =
      s.carriedOut (s.store.resize b size) fun _ => .done := by
  rw [step_call, call, of]
  rfl

/-- Writing to a buffer writes bytes, or changes nothing. -/
theorem buffer_write_move {b : Buffer} (of : s.value? name = some (.source (.buffer b)))
    (offset : Nat) (data : List UInt8) :
    Move s (.call name (.write offset data)) (s.callBuffer b (.write offset data)).events
      (s.callBuffer b (.write offset data)).session := by
  rw [callBuffer]
  rcases b.write_cases (s.store.memory b.memory) offset data with
    ⟨failure, failed⟩ | ⟨access, unpoisoned, block, fits, written⟩
  · rw [failed, writing_of_failure]
    exact .rest quiet_nil
  · rw [written]
    exact .write (.buffer of access unpoisoned) fits

/-- Replacing an item of a tensor writes its bytes, or changes nothing. -/
theorem tensor_set_move {t : Tensor} (of : s.value? name = some (.source (.tensor t)))
    (index : List Nat) (value : Int) :
    Move s (.call name (.set index value)) (s.callTensor t (.set index value)).events
      (s.callTensor t (.set index value)).session := by
  rw [callTensor]
  rcases t.set_cases (s.store.memory t.memory) index value with
    ⟨failure, failed⟩ | ⟨access, offset, m, place, written, set⟩
  · rw [failed, writing_of_failure]
    exact .rest quiet_nil
  · obtain ⟨unpoisoned, block, fits, rfl⟩ := Memory.write_eq_ok written
    rw [set]
    exact .write (.tensor of access unpoisoned place) fits

/-- Resizing enters no lease and strikes none out. -/
theorem quiet_resize (s : Store) (b : Buffer) (size : Nat) :
    Event.Quiet (s.resize b size).events := by
  simp only [Store.resize]
  split <;> exact ⟨rfl, rfl⟩

/-- Resizing a buffer gives its block a new size, poisons the lock, or changes nothing. -/
theorem resize_move {b : Buffer} (of : s.value? name = some (.source (.buffer b))) (size : Nat) :
    Move s (.call name (.resize size)) (s.callBuffer b (.resize size)).events
      (s.callBuffer b (.resize size)).session := by
  have quiet := quiet_resize s.store b size
  simp only [callBuffer, carriedOut, Store.resize] at quiet ⊢
  cases access : b.readOnly with
  | true =>
    simp only [Buffer.resize, access, if_true, Store.setMemory_memory]
    exact .rest quiet_nil
  | false =>
    simp only [Buffer.resize, access, Bool.false_eq_true, if_false] at quiet ⊢
    have hm := Memory.resizing (s.store.memory b.memory) size
    generalize (s.store.memory b.memory).resize size = resized at hm quiet
    cases hm with
    | kept =>
      rw [Store.setMemory_memory]
      exact .rest quiet
    | resized unpoisoned free fits fitted => exact .resize of access unpoisoned free fits fitted
    | poisoned unpoisoned free excess => exact .poison of access unpoisoned free excess

/-- Whatever a value is called for, the call is a move. -/
theorem call_move (c : Call) :
    Move s (.call name c) (s.call name c).events (s.call name c).session := by
  unfold call
  split
  · exact .rest quiet_nil
  · rename_i v of
    split
    · exact .rest quiet_nil
    · exact lend_move of _
    · rename_i b hinfo hlend
      cases c with
      | write offset data => exact buffer_write_move of offset data
      | resize size => exact resize_move of size
      | _ => exact .rest quiet_nil
    · rename_i t hinfo hlend
      cases c with
      | set index value => exact tensor_set_move of index value
      | _ => exact .rest quiet_nil
    · rename_i id hinfo hlend
      cases c with
      | redescribe description refusal => exact .redescribe of
      | _ => exact .rest quiet_nil
    · exact .rest quiet_nil

/-! ### Acquiring, using and letting go -/

/-- How a request words a failure to acquire. -/
def Request.wording : Request → Failure → Failure
  | simplePointer => .withHint
  | stridedPointer | pointerUnder _ | viewUnder _ => id

/-- A fault is worded the same by every request. -/
theorem Request.wording_faulted (request : Request) (fault : Fault) :
    request.wording (.faulted fault) = .faulted fault := by
  cases request <;> rfl

/-- Whatever is requested, a view is acquired under the contract of the request. -/
theorem hold_eq (s : Store) (v : Value) (request : Request) :
    request.hold s v =
      { s.acquire v request.contract with
        result := ((s.acquire v request.contract).result.mapError request.wording).map
          request.holding } := by
  rcases made : s.acquire v request.contract with ⟨store, events, result⟩
  cases request with
  | simplePointer =>
    have made : s.acquire v .simple = ⟨store, events, result⟩ := made
    simp only [Request.hold, Store.simplePointer, Store.pointerUnder, made]
    cases result <;> rfl
  | stridedPointer =>
    have made : s.acquire v .stridedReadOnly = ⟨store, events, result⟩ := made
    simp only [Request.hold, Store.stridedPointer, Store.pointerUnder, made]
    cases result <;> rfl
  | pointerUnder c =>
    have made : s.acquire v c = ⟨store, events, result⟩ := made
    simp only [Request.hold, Store.pointerUnder, made]
    cases result <;> rfl
  | viewUnder c =>
    have made : s.acquire v c = ⟨store, events, result⟩ := made
    simp only [Request.hold, made]
    cases result <;> rfl

/-- What comes of asking a value of the session for a view. -/
theorem Sound.acquiring (hs : s.Sound) {origin : String} {v : Value} (of : s.value? origin = some v)
    (c : Contract) : s.store.Acquiring c v (s.store.acquire v c) := by
  refine Store.acquiring fun source hv => ?_
  subst hv
  exact hs.hasSource of

/-- What is acquired gets the name, and nothing gets it if nothing is acquired. -/
theorem acquire_eq (name : String) {origin : String} {v : Value} (of : s.value? origin = some v)
    (request : Request) :
    let made := s.store.acquire v request.contract
    let left := { s with store := made.store }
    s.acquire name origin request =
      match made.result with
      | .ok e => ⟨left.addHold name (request.holding e), made.events, .answer (.view e.view)⟩
      | .error failure => ⟨left, made.events, .failed (request.wording failure)⟩ := by
  intro made left
  simp only [acquire, of, hold_eq]
  cases h : (s.store.acquire v request.contract).result with
  | ok e =>
    simp only [made, Except.mapError, Except.map, shown_holding]
    rfl
  | error failure => rfl

/-- A request leaves the store as acquiring the view does, whatever becomes of the name. -/
theorem acquire_store (name : String) {origin : String} {v : Value} (of : s.value? origin = some v)
    (request : Request) :
    (s.acquire name origin request).session.store = (s.store.acquire v request.contract).store := by
  rw [acquire_eq name of]
  cases (s.store.acquire v request.contract).result <;> rfl

/-- A request that fails gives the name nothing. -/
theorem acquire_failed {origin : String} {v : Value} (of : s.value? origin = some v)
    {request : Request} {failure : Failure}
    (hr : (s.acquire name origin request).reply = .failed failure) :
    (s.acquire name origin request).session.holds = s.holds ∧
      ∃ why, (s.store.acquire v request.contract).result = .error why := by
  rw [acquire_eq name of] at hr ⊢
  cases h : (s.store.acquire v request.contract).result with
  | error why => exact ⟨rfl, why, rfl⟩
  | ok e =>
    simp only [h] at hr
    cases hr

/-- A request is a move, one for each way that acquiring a view can go. -/
theorem acquire_move (hs : s.Sound) (untaken : s.isTaken name = false) (origin : String)
    (request : Request) :
    Move s (.acquire name origin request) (s.acquire name origin request).events
      (s.acquire name origin request).session := by
  cases of : s.value? origin with
  | none =>
    simp only [acquire, of]
    exact .rest quiet_nil
  | some v =>
    rw [acquire_eq name of]
    have outcome := hs.acquiring of request.contract
    generalize s.store.acquire v request.contract = made at outcome
    cases outcome with
    | invalid => exact .rest ⟨rfl, rfl⟩
    | unsupported => exact .rest ⟨rfl, rfl⟩
    | refused => exact .rest quiet_nil
    | declined valid => exact .ask (.acquire of valid)
    | lost valid _ grants => exact .lose (.acquire of valid) grants
    | rejected valid grants region agreed => exact .reject of valid grants region agreed
    | acquired acquires => exact .take untaken of acquires

/-- A further handle is derived under a free name. -/
theorem step_derive (untaken : s.isTaken name = false) (origin : String)
    (derivation : Derivation) :
    s.step (.derive name origin derivation) = s.derive name origin derivation := by
  rw [step, if_neg (by simp [Step.newName?, untaken])]

/-- A clone is made under a free name. -/
theorem step_clone (untaken : s.isTaken name = false) (origin : String) :
    s.step (.clone name origin) = s.clone name origin := by
  rw [step, if_neg (by simp [Step.newName?, untaken])]

/-- A request under a free name is put to the value. -/
theorem step_acquire (untaken : s.isTaken name = false) (origin : String) (request : Request) :
    s.step (.acquire name origin request) = s.acquire name origin request := by
  rw [step, if_neg (by simp [Step.newName?, untaken])]

/-- A request under a name that is taken changes nothing. -/
theorem step_acquire_of_taken (taken : s.isTaken name = true) (origin : String)
    (request : Request) : s.step (.acquire name origin request) = s.replying .invalid := by
  rw [step, if_pos (by simp [Step.newName?, taken])]

/-- A request for a view that does not fit what its names stand for changes nothing.  Any other is
put to the value, and what comes of it is told by `acquire_eq`. -/
theorem acquire_step (s : Session) (name origin : String) (request : Request) :
    s.step (.acquire name origin request) = s.replying .invalid ∨
      ∃ v, s.isTaken name = false ∧ s.value? origin = some v ∧
        s.step (.acquire name origin request) = s.acquire name origin request := by
  cases taken : s.isTaken name with
  | true => exact .inl (step_acquire_of_taken taken origin request)
  | false =>
    rw [step_acquire taken]
    cases of : s.value? origin with
    | none =>
      refine .inl ?_
      simp only [acquire, of]
    | some v => exact .inr ⟨v, rfl, rfl, rfl⟩

/-- What is held goes back where it came from. -/
theorem giveBack_turn (hs : s.Sound) {h : Hold} (hh : s.hold? name = some h) :
    s.giveBack h =
      ⟨{ s with store := s.store.repay? h.lease? }, s.store.receipt? h.lease?, .answer .done⟩ := by
  unfold giveBack
  cases hl : h.lease? with
  | none => rfl
  | some l =>
    have hc := hs.canRepay (lease_mem_unreturned hh hl)
    simp only [carriedOut, Store.giveBack_of_canRepay hc]
    rfl

/-- A name that is dropped gives back what it holds. -/
theorem drop_turn (hs : s.Sound) {h : Hold} (hh : s.hold? name = some h) :
    s.step (.drop name) =
      ⟨({ s with store := s.store.repay? h.lease? }.forget name).letGo h.memory?,
        s.store.receipt? h.lease?, .answer .done⟩ := by
  rw [step_drop, drop, hh]
  simp only [giveBack_turn hs hh]

/-- A view that is released gives back what it holds, and goes. -/
theorem release_view_turn (hs : s.Sound) {v : ExportedView} (hh : s.hold? name = some (.view v)) :
    s.step (.use name .release) =
      ⟨({ s with store := s.store.repay? (Hold.view v).lease? }.forget name).letGo
        (Hold.view v).memory?, s.store.receipt? (Hold.view v).lease?, .answer .done⟩ := by
  rw [step_use, use, hh]
  simp only [release, giveBack_turn hs hh]

/-- A pointer that is released gives back what it holds, and stays. -/
theorem release_pointer_turn (hs : s.Sound) {p : Pointer}
    (hh : s.hold? name = some (.pointer p)) :
    s.step (.use name .release) =
      ⟨({ s with store := s.store.repay? (Hold.pointer p).lease? }.setHold name
        (.pointer ⟨p.origin, none⟩)).letGo (Hold.pointer p).memory?,
        s.store.receipt? (Hold.pointer p).lease?, .answer .done⟩ := by
  rw [step_use, use, hh]
  simp only [release, giveBack_turn hs hh]

/-- What is reached through a lease is the memory that it is of. -/
theorem memory_of_reached? {h : Hold} {id other : Nat} {w : Bool}
    (hl : h.lease? = some (.memory id w)) (reached : s.reached? h = some other) : other = id := by
  obtain ⟨there, -⟩ := Option.filter_eq_some_iff.1 reached
  rw [Hold.memory?, hl] at there
  exact (Option.some.inj there).symm

/-- What is reached is reached through a lease of it. -/
theorem lease_of_reached? {h : Hold} {id : Nat} (reached : s.reached? h = some id) :
    ∃ e w, h.exported? = some e ∧ e.lease = .memory id w := by
  obtain ⟨there, -⟩ := Option.filter_eq_some_iff.1 reached
  obtain ⟨l, hl, of⟩ := Option.bind_eq_some_iff.1 there
  rw [Hold.lease?_eq] at hl
  obtain ⟨e, he, rfl⟩ := Option.map_eq_some_iff.1 hl
  cases lease : e.lease with
  | foreign => simp [lease, Lease.memory?] at of
  | memory other w =>
    obtain rfl : other = id := by simpa [lease, Lease.memory?] using of
    exact ⟨e, w, he, lease⟩

/-- Foreign code that is told an address to write at writes, if what it is told is of a view that is
not only for reading. -/
theorem pokeAt_move {h : Hold} (of : s.hold? name = some h) {usage : Usage} {item : ItemType}
    {offset : Nat} {value : Int} (pokes : usage.poked? = some (item, offset, value))
    {address : Except Refusal Address}
    (access : ∀ a e, address = .ok a → h.exported? = some e → e.view.readOnly = false) :
    Move s (.use name usage) (s.pokeAt h address item offset value).events
      (s.pokeAt h address item offset value).session := by
  unfold pokeAt
  split
  · exact .rest quiet_nil
  · rename_i a id reached
    obtain ⟨e, w, exported, lease⟩ := lease_of_reached? reached
    unfold Memory.poke
    cases fits : (s.store.memory id).block.splice? offset (item.encode value) with
    | none => exact .rest quiet_nil
    | some block =>
      exact .write (.held of exported (access a e rfl exported) lease pokes) fits
  · exact .rest quiet_nil

/-- Foreign code may write at the address of whatever is held. -/
theorem pokeBase_turn {h : Hold} (of : s.hold? name = some h) (item : ItemType) (offset : Nat)
    (value : Int) :
    s.step (.use name (.pokeBase item offset value)) = s.pokeBase h item offset value := by
  rw [step_use, use, of]

/-- A write through a pointer writes bytes, or changes nothing. -/
theorem poke_move {p : Pointer} (of : s.hold? name = some (.pointer p)) (item : ItemType)
    (offset : Nat) (value : Int) :
    Move s (.use name (.poke item offset value))
      (s.pokeAt (.pointer p) p.writeAddress item offset value).events
      (s.pokeAt (.pointer p) p.writeAddress item offset value).session := by
  refine pokeAt_move of rfl fun a e told (held : p.exported = some e) => ?_
  by_contra readOnly
  simp only [Pointer.writeAddress, Pointer.view, held] at told
  rw [if_pos (by simpa using readOnly)] at told
  cases told

/-- A write at the address of a view writes bytes, or changes nothing. -/
theorem pokeBase_move {h : Hold} (of : s.hold? name = some h) (item : ItemType) (offset : Nat)
    (value : Int) :
    Move s (.use name (.pokeBase item offset value)) (s.pokeBase h item offset value).events
      (s.pokeBase h item offset value).session := by
  unfold pokeBase
  split
  · exact .rest quiet_nil
  · rename_i access
    refine pokeAt_move of rfl fun a e _ exported => ?_
    simpa [Hold.shown_of_exported? exported, Except.toOption] using access

/-- Whatever a pointer or a view is used for, the use is a move. -/
theorem use_move (hs : s.Sound) (usage : Usage) :
    Move s (.use name usage) (s.use name usage).events (s.use name usage).session := by
  unfold use
  split
  · exact .rest quiet_nil
  · rename_i h of
    split
    · exact .rest quiet_nil
    · exact .rest quiet_nil
    · exact .rest quiet_nil
    · exact .rest quiet_nil
    · exact pokeBase_move of _ _ _
    · cases h with
      | pointer p =>
        simp only [release, giveBack_turn hs of]
        exact .release of
      | view v =>
        simp only [release, giveBack_turn hs of]
        exact .consume of (.inr rfl)
    · rename_i p _ _ _ _ _ _
      cases usage with
      | poke item offset value => exact poke_move of item offset value
      | _ => exact .rest quiet_nil
    · exact .rest quiet_nil

/-- Dropping a name is a move. -/
theorem drop_move (hs : s.Sound) :
    Move s (.drop name) (s.drop name).events (s.drop name).session := by
  unfold drop
  split
  · rename_i h of
    simp only [giveBack_turn hs of]
    exact .consume of (.inl rfl)
  · rename_i unheld
    split
    · rename_i v of
      exact .forget of unheld
    · exact .rest quiet_nil

/-- **Every step is a move.** -/
theorem step_move (hs : s.Sound) (t : Step) :
    Move s t (s.step t).events (s.step t).session := by
  unfold step
  split
  · exact .rest quiet_nil
  · rename_i hn
    have untaken : ∀ name, t.newName? = some name → s.isTaken name = false := by
      intro name ht
      simpa [ht] using hn
    cases t with
    | create name creation => exact create_move (untaken name rfl) creation
    | derive name origin derivation => exact derive_move (untaken name rfl) origin derivation
    | clone name origin => exact clone_move (untaken name rfl) origin
    | call name c => exact call_move c
    | acquire name origin request => exact acquire_move hs (untaken name rfl) origin request
    | use name usage => exact use_move hs usage
    | drop name => exact drop_move hs

/-- **Every step keeps the accounts in order.** -/
theorem step_sound (hs : s.Sound) (t : Step) : (s.step t).session.Sound :=
  (step_move hs t).sound hs

/-- **What every step of a run keeps** is kept by the run. -/
theorem after_keeps_of_steps {P : Session → Prop} {steps : List Step}
    (keeps : ∀ t ∈ steps, ∀ {s : Session}, s.Sound → P s → P (s.step t).session)
    (hs : s.Sound) (h : P s) : P (s.after steps) := by
  induction steps generalizing s with
  | nil => exact h
  | cons t steps ih =>
    have first : P (s.step t).session := keeps t List.mem_cons_self hs h
    exact ih (fun t ht => keeps t (List.mem_cons_of_mem _ ht)) (step_sound hs t) first

/-- **What every move keeps** is kept as long as a session runs. -/
theorem after_keeps {P : Session → Prop}
    (keeps : ∀ {s s' : Session} {t : Step} {es : List Event}, Move s t es s' → s.Sound → P s → P s')
    (hs : s.Sound) (h : P s) (steps : List Step) : P (s.after steps) :=
  after_keeps_of_steps (fun t _ _ hs h => keeps (step_move hs t) hs h) hs h

/-- **A session keeps its accounts in order** as long as it runs. -/
theorem after_sound (hs : s.Sound) (steps : List Step) : (s.after steps).Sound :=
  after_keeps (fun m hs _ => m.sound hs) hs hs steps

/-- A run is continued where it has come to. -/
theorem after_append (s : Session) (steps more : List Step) :
    s.after (steps ++ more) = (s.after steps).after more :=
  List.foldl_append

theorem after_cons (s : Session) (t : Step) (steps : List Step) :
    s.after (t :: steps) = (s.step t).session.after steps := rfl

theorem after_singleton (s : Session) (t : Step) : s.after [t] = (s.step t).session := rfl

theorem after_concat (s : Session) (steps : List Step) (t : Step) :
    s.after (steps ++ [t]) = ((s.after steps).step t).session := by
  rw [after_append, after_singleton]

end Session
end MemoryLease
