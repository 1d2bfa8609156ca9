import MemoryLease.Proofs.Session.Contents

/-!
# Handles for reading only

Whether a memory may be written is not a property of the memory: one handle to it may write while
another one must not.  What a session may do to a memory is therefore told of names: a name admits
writing to a memory if it stands for a handle that may write, or for a pointer or a view that says
so or holds a lease for writing (`Session.Admits`).  Two facts about a single move say all that is
needed: a memory changes only if the step goes through a name that admits writing to it
(`Move.warranted`), and what a step makes admits nothing that the name it goes through does not
admit (`Move.admits_cases`).

So a handle for reading only, everything that is derived from it and everything that is acquired
through any of these (`Session.Reader`) changes nothing in any run, and a memory that is made for
reading only stays as it was made (`readers_change_nothing`).
-/

namespace MemoryLease

/-! ### Memories that nobody has written -/

namespace Memory

/-- The bytes of a memory are as they were, its block is where it was, and as many views for writing
are outstanding as were. -/
structure Unwritten (m m' : Memory) : Prop where
  place : m.InPlace m'
  bytes : m'.bytes = m.bytes
  writers : m'.views true = m.views true

theorem Unwritten.refl (m : Memory) : m.Unwritten m := ⟨.refl m, rfl, rfl⟩

end Memory

namespace Store

/-- A lease that is not for writing leaves the memories unwritten when it is entered. -/
theorem unwritten_enter {s : Store} {l : Lease} (hl : s.HasLease l) {id : Nat}
    (reading : l ≠ .memory id true) (c : Contract) :
    (s.memory id).Unwritten ((s.enter c l).memory id) := by
  refine ⟨inPlace_enter s c l id, bytes_enter s c l id, ?_⟩
  rw [views_enter hl, List.count_eq_zero_of_not_mem (by simpa using Ne.symm reading)]
  rfl

/-- A lease for writing is granted only through a handle that may write. -/
theorem Grants.access {s : Store} {c : Contract} {source : Source} {id : Nat}
    (h : s.Grants c source (.memory id true)) :
    source.memory? = some id ∧ source.isReadOnly = false := by
  generalize hl : Lease.memory id true = l at h
  cases h with
  | owned of access =>
    obtain ⟨rfl, writable⟩ := Lease.memory.inj hl
    exact ⟨of, access writable.symm⟩
  | foreign => cases hl

end Store

namespace Session

variable {s s' : Session} {t : Step} {es : List Event} {name : String} {id : Nat}

/-! ### Names that admit writing -/

/-- The name that a step goes through: of the value that it calls, that it makes a further handle of
or that it acquires from, or of what it uses or lets go of. -/
def Step.subject? : Step → Option String
  | .create _ _ => none
  | .derive _ origin _ | .clone _ origin | .acquire _ origin _ => some origin
  | .call name _ | .use name _ | .drop name => some name

/-- A further handle is made through the handle that it is made from. -/
theorem Derives.subject {origin : String} {derivation : Derivation}
    (h : Derives t name origin derivation) : t.subject? = some origin := by
  cases h <;> rfl

/-- A name admits writing to a memory. -/
inductive Admits (s : Session) (name : String) (id : Nat) : Prop
  /-- It stands for a handle that may write. -/
  | handle {source : Source} (of : s.value? name = some (.source source))
      (owned : source.memory? = some id) (access : source.isReadOnly = false)
  /-- It stands for a pointer or a view that says so, or that holds a lease for writing. -/
  | held {h : Hold} {e : ExportedView} {w : Bool} (of : s.hold? name = some h)
      (unreleased : h.exported? = some e) (lease : e.lease = .memory id w)
      (access : e.view.readOnly = false ∨ w = true)

/-- A name that may write stands for something. -/
theorem Admits.taken (h : s.Admits name id) : s.isTaken name = true := by
  cases h with
  | handle of => simp [isTaken, of]
  | held of => simp [isTaken, of]

/-- Only writing to a memory that is there is admitted. -/
theorem Admits.present (h : s.Admits name id) (hs : s.Sound) : id < s.store.memories.length := by
  cases h with
  | @handle source of owned =>
    have there := hs.hasSource of
    cases source with
    | buffer b => exact Option.some.inj owned ▸ there
    | tensor u => exact Option.some.inj owned ▸ there
    | foreign => cases owned
  | held of unreleased lease =>
    exact hs.hasLease (lease_mem_unreturned of (Hold.lease?_of_exported? unreleased lease))

/-- Who must not write to a memory has no handle to it that may. -/
theorem isReadOnly_of_not_admits {source : Source} (h : ¬ s.Admits name id)
    (of : s.value? name = some (.source source)) (owned : source.memory? = some id) :
    source.isReadOnly = true := by
  by_contra access
  exact h (.handle of owned (by simpa using access))

/-! ### A memory changes only where that is admitted -/

/-- A source is asked through a name of it. -/
theorem Asks.subject {source : Source} {c : Contract} (h : Asks s t source c) :
    ∃ name, t.subject? = some name ∧ s.value? name = some (.source source) := by
  cases h with
  | lend of => exact ⟨_, rfl, of⟩
  | acquire of => exact ⟨_, rfl, of⟩

/-- What writes bytes goes through a name that admits it. -/
theorem Writes.admitted {offset : Nat} {data : List UInt8} (h : Writes s t id offset data) :
    ∃ name, t.subject? = some name ∧ s.Admits name id := by
  cases h with
  | buffer of access => exact ⟨_, rfl, .handle of rfl access⟩
  | tensor of access => exact ⟨_, rfl, .handle of rfl access⟩
  | held of exported access lease => exact ⟨_, rfl, .held of exported lease (.inl access)⟩

/-- What a step may leave of a memory. -/
inductive Warranted (s : Session) (t : Step) (id : Nat) (m : Memory) : Prop
  /-- The memory is unwritten. -/
  | unwritten (kept : (s.store.memory id).Unwritten m)
  /-- The step goes through a name that admits writing to the memory. -/
  | admitted {name : String} (through : t.subject? = some name) (admits : s.Admits name id)
  /-- The step goes through no name, and the memory is new. -/
  | made (fresh : t.subject? = none) (new : id = s.store.memories.length)

namespace Warranted

/-- A step that leaves a memory as it was needs no warrant. -/
theorem refl (s : Session) (t : Step) (id : Nat) : s.Warranted t id (s.store.memory id) :=
  .unwritten (.refl _)

/-- A memory is replaced that writing is admitted to. -/
theorem setMemory {other : Nat} (through : t.subject? = some name) (admits : s.Admits name other)
    (changed : Memory) (id : Nat) :
    s.Warranted t id ((s.store.setMemory other changed).memory id) := by
  rcases Store.memory_setMemory_cases s.store other changed id with same | ⟨rfl, -⟩
  · rw [same]
    exact .refl s t id
  · exact .admitted through admits

/-- A lease is entered that a source has granted. -/
theorem enter (hs : s.Sound) {source : Source} {c : Contract} {lease : Lease}
    (through : t.subject? = some name) (of : s.value? name = some (.source source))
    (grants : s.store.Grants c source lease) (id : Nat) :
    s.Warranted t id ((s.store.enter c lease).memory id) := by
  by_cases writing : lease = .memory id true
  · obtain ⟨owned, access⟩ := (writing ▸ grants).access
    exact .admitted through (.handle of owned access)
  · exact .unwritten (Store.unwritten_enter (grants.hasLease (hs.hasSource of)) writing c)

/-- What is held goes back. -/
theorem repay? (hs : s.Sound) {h : Hold} (through : t.subject? = some name)
    (of : s.hold? name = some h) (id : Nat) :
    s.Warranted t id ((s.store.repay? h.lease?).memory id) := by
  by_cases writing : h.lease? = some (.memory id true)
  · rw [Hold.lease?_eq] at writing
    obtain ⟨e, unreleased, lease⟩ := Option.map_eq_some_iff.1 writing
    exact .admitted through (.held of unreleased lease (.inr rfl))
  · refine .unwritten ⟨inPlace_repay? _ _ id, bytes_repay? _ _ id, ?_⟩
    have kept := hs.views_repay? of id true
    rwa [List.count_eq_zero_of_not_mem (by simpa using writing)] at kept

end Warranted

/-- **A memory changes only where that is admitted.**  A move leaves a memory unwritten unless the
step goes through a name that admits writing to the memory, or makes the memory. -/
theorem Move.warranted (m : Move s t es s') (hs : s.Sound) (id : Nat) :
    s.Warranted t id (s'.store.memory id) := by
  cases m with
  | create _ made =>
    rcases made.memory_cases id with same | ⟨new, -⟩
    · exact .unwritten (same ▸ .refl _)
    · exact .made rfl new
  | write writes =>
    obtain ⟨name, through, admits⟩ := writes.admitted
    exact .setMemory through admits _ id
  | resize of access => exact .setMemory rfl (.handle of rfl access) _ id
  | poison of access => exact .setMemory rfl (.handle of rfl access) _ id
  | lose asks grants =>
    obtain ⟨name, through, of⟩ := asks.subject
    exact .enter hs through of grants id
  | take _ of acquires => exact .enter hs rfl of acquires.grants id
  | @reject _ _ request _ lease _ _ of _ grants =>
    have hl := grants.hasLease (hs.hasSource of)
    refine .unwritten ⟨(Store.inPlace_enter _ _ _ id).trans (Store.inPlace_repay _ _ id),
      (Store.bytes_repay _ _ id).trans (Store.bytes_enter _ _ _ id), ?_⟩
    rw [Store.views_repay (hl.enter request.contract lease), Store.views_enter hl]
    exact Nat.add_sub_cancel _ _
  | release of => exact .repay? hs rfl of id
  | consume of lets =>
    rcases lets with rfl | rfl
    · exact .repay? hs rfl of id
    · exact .repay? hs rfl of id
  | _ => exact .refl s _ id

/-! ### What a step makes admits no more -/

/-- A value after a move has been there before, or the name gets what is made or derived. -/
theorem Move.value_cases {v : Value} (m : Move s t es s') (hv : s'.value? name = some v) :
    s.value? name = some v ∨ s.isTaken name = false ∧
      (((∃ creation, t = .create name creation) ∧ Made s.store s'.store v) ∨
        ∃ origin derivation handle derived, Derives t name origin derivation ∧
          s.value? origin = some (.source handle) ∧
          derivation.source? handle = some (.ok derived) ∧ v = .source derived) := by
  cases m with
  | @create other creation _ made untaken new =>
    rcases Names.lookup?_of_add (isTaken_eq_false_iff.1 untaken).1 hv with before | ⟨rfl, rfl⟩
    · exact .inl before
    · exact .inr ⟨untaken, .inl ⟨⟨creation, rfl⟩, new⟩⟩
  | @derive _ other origin derivation handle derived derives untaken of made =>
    rcases Names.lookup?_of_add (isTaken_eq_false_iff.1 untaken).1 hv with before | ⟨rfl, rfl⟩
    · exact .inl before
    · exact .inr ⟨untaken, .inr ⟨origin, derivation, handle, derived, derives, of, made,
        rfl⟩⟩
  | consume => exact .inl (Names.lookup?_of_remove hv)
  | forget => exact .inl (Names.lookup?_of_remove hv)
  | _ => exact .inl hv

/-- A further handle is one to the same memory, and it may write only if the first one may. -/
theorem derived_access {derivation : Derivation} {handle derived : Source}
    (h : derivation.source? handle = some (.ok derived)) :
    derived.memory? = handle.memory? ∧
      (derived.isReadOnly = false → handle.isReadOnly = false) := by
  refine ⟨memory?_of_derived h, ?_⟩
  rcases derived_cases h with ⟨b, rfl, rfl⟩ | ⟨u, u', rfl, rfl, made⟩
  · exact id
  · cases derivation with
    | step axis every =>
      obtain ⟨-, extent, stride, -, -, rfl⟩ := Tensor.step_eq_ok made
      exact id
    | readOnly =>
      cases made
      exact nofun
    | same | transpose =>
      cases made
      exact id

/-- **What a step makes admits no more** than the name that it goes through: who can write to a
memory after a move could do so before, or has been made from what could, or the memory is new. -/
theorem Move.admits_cases (m : Move s t es s') (ha : s'.Admits name id) :
    s.Admits name id ∨ s.isTaken name = false ∧
      ((∃ creation, t = .create name creation) ∧ id = s.store.memories.length ∨
        ∃ origin, t.subject? = some origin ∧ s.Admits origin id) := by
  cases ha with
  | @handle source of owned access =>
    rcases m.value_cases of with before | ⟨untaken, ⟨created, made⟩ | ⟨origin, derivation, handle,
      derived, derives, from_, made, he⟩⟩
    · exact .inl (.handle before owned access)
    · refine .inr ⟨untaken, .inl ⟨created, ?_⟩⟩
      generalize s'.store = store at made
      cases made with
      | buffer => exact (Option.some.inj owned).symm
      | tensor _ within => exact (Option.some.inj owned).symm.trans within
      | foreign => cases owned
    · obtain rfl := Value.source.inj he
      obtain ⟨shared, writes⟩ := derived_access made
      exact .inr ⟨untaken, .inr ⟨origin, derives.subject,
        .handle from_ (shared ▸ owned) (writes access)⟩⟩
  | @held h e w of unreleased lease access =>
    rcases m.hold_cases of unreleased with before | ⟨origin, request, source, rfl, untaken, from_,
      acquires, -, -⟩
    · exact .inl (.held before unreleased lease access)
    · refine .inr ⟨untaken, .inr ⟨origin, rfl, ?_⟩⟩
      obtain ⟨owned, -, r, hr, hn⟩ := acquires.owned lease
      have handle : r.readOnly = source.isReadOnly := (Source.region_eq_ok owned hr).2
      refine .handle from_ owned ?_
      rw [← handle]
      rcases access with shown | rfl
      · rwa [Region.readOnly_of_negotiate hn] at shown
      · rw [handle]
        exact (Store.Grants.access (lease ▸ acquires.grants)).2

/-- What a step makes of a name that does not admit writing does not admit it either. -/
theorem Move.not_admits_of_new {origin : String} (m : Move s t es s')
    (through : t.subject? = some origin) (untaken : s.isTaken name = false)
    (h : ¬ s.Admits origin id) : ¬ s'.Admits name id := by
  intro admits
  rcases m.admits_cases admits with before | ⟨-, ⟨⟨_, rfl⟩, -⟩ | ⟨other, subject, before⟩⟩
  · rw [before.taken] at untaken
    cases untaken
  · cases through
  · exact h (Option.some.inj (subject.symm.trans through) ▸ before)

/-! ### Handles for reading only -/

/-- After some steps a name stands for a handle for reading only, for one that is derived from such
a handle, or for a pointer or a view that is acquired from one. -/
inductive Reader : List Step → String → Prop
  | handle {steps : List Step} {name : String} {source : Source}
      (of : (after {} steps).value? name = some (.source source))
      (access : source.isReadOnly = true) : Reader steps name
  | derive {steps : List Step} {t : Step} {name origin : String} {derivation : Derivation}
      (derives : Derives t name origin derivation) (reader : Reader steps origin)
      (untaken : (after {} steps).isTaken name = false)
      (taken : (after {} (steps ++ [t])).isTaken name = true) : Reader (steps ++ [t]) name
  | acquire {steps : List Step} {name origin : String} {request : Request}
      (reader : Reader steps origin) (untaken : (after {} steps).isTaken name = false)
      (taken : (after {} (steps ++ [.acquire name origin request])).isTaken name = true) :
      Reader (steps ++ [.acquire name origin request]) name
  /-- It still does after a step that leaves the name standing. -/
  | later {steps : List Step} {name : String} {t : Step} (reader : Reader steps name)
      (taken : (after {} (steps ++ [t])).isTaken name = true) : Reader (steps ++ [t]) name

namespace Reader

variable {steps : List Step}

/-- The name of a reader stands for something. -/
theorem isTaken (h : Reader steps name) : (after {} steps).isTaken name = true := by
  cases h with
  | handle of => simp [Session.isTaken, of]
  | derive _ _ _ taken => exact taken
  | acquire _ _ taken => exact taken
  | later _ taken => exact taken

/-- **A handle for reading only admits no writing**, and neither does what comes of it. -/
theorem not_admits (h : Reader steps name) (id : Nat) : ¬ (after {} steps).Admits name id := by
  have moved : ∀ steps t, Move (after {} steps) t ((after {} steps).step t).events
      (after {} (steps ++ [t])) := by
    intro steps t
    rw [after_concat]
    exact step_move (after_sound sound_empty steps) t
  induction h with
  | @handle steps name source of access =>
    intro admits
    cases admits with
    | handle of' owned access' =>
      obtain rfl := Value.source.inj (Option.some.inj (of.symm.trans of'))
      rw [access] at access'
      cases access'
    | held of' =>
      have named := after_named sound_empty named_empty steps
      cases of.symm.trans (named.apart name _ of')
  | derive derives _ free _ ih => exact (moved _ _).not_admits_of_new derives.subject free ih
  | acquire _ free _ ih => exact (moved _ _).not_admits_of_new rfl free ih
  | later reader _ ih =>
    intro admits
    rcases (moved _ _).admits_cases admits with before | ⟨free, -⟩
    · exact ih before
    · rw [reader.isTaken] at free
      cases free

/-- **A step that goes through it** leaves every memory unwritten. -/
theorem unwritten (h : Reader steps name) {t : Step} (through : t.subject? = some name) (id : Nat) :
    ((after {} steps).store.memory id).Unwritten
      ((after {} (steps ++ [t])).store.memory id) := by
  have hs : (after {} steps).Sound := after_sound sound_empty steps
  rw [after_concat]
  cases (step_move hs t).warranted hs id with
  | unwritten kept => exact kept
  | admitted through' admits =>
    obtain rfl := Option.some.inj (through'.symm.trans through)
    exact absurd admits (h.not_admits id)
  | made fresh => cases fresh.symm.trans through

end Reader

/-! ### Memories for reading only -/

/-- A memory of bytes that nobody may write to. -/
structure Frozen (s : Session) (id : Nat) (data : List UInt8) : Prop where
  contains : s.Contains id data
  unlent : (s.store.memory id).views true = 0
  unadmitted : ∀ name, ¬ s.Admits name id

/-- **A memory that nobody may write to** stays one, with the bytes that it has. -/
theorem Move.frozen (m : Move s t es s') (hs : s.Sound) {data : List UInt8}
    (h : s.Frozen id data) : s'.Frozen id data := by
  have present := h.contains.ofBytes.present
  have kept : (s.store.memory id).Unwritten (s'.store.memory id) := by
    cases m.warranted hs id with
    | unwritten kept => exact kept
    | admitted _ admits => exact absurd admits (h.unadmitted _)
    | made _ new => exact absurd new (Nat.ne_of_lt present)
  refine ⟨⟨m.ofBytes hs h.contains.ofBytes, kept.bytes.trans h.contains.bytes,
    kept.place.poisoned.trans h.contains.unpoisoned⟩, kept.writers.trans h.unlent,
    fun name admits => ?_⟩
  rcases m.admits_cases admits with before | ⟨-, ⟨-, new⟩ | ⟨origin, -, before⟩⟩
  · exact h.unadmitted name before
  · exact absurd new (Nat.ne_of_lt present)
  · exact h.unadmitted origin before

/-- A frozen buffer is the only thing that its memory is made with. -/
theorem create_frozen (hs : s.Sound) {data : List UInt8} {a : Answer}
    (hr : (s.step (.create name (.frozen data))).reply = .answer a) :
    let made := (s.step (.create name (.frozen data))).session
    made.Frozen s.store.memories.length data ∧
      ∃ b, made.value? name = some (.source (.buffer b)) ∧
        b.memory = s.store.memories.length := by
  have initial : Creation.bytes? (.frozen data) = some data := rfl
  obtain ⟨contains, -⟩ := create_contains hs initial hr
  obtain ⟨store, v, hv, free, session⟩ := created_of_reply hr
  obtain ⟨m, hm, he⟩ := map_eq_ok_iff.1 hv
  have fresh := (Memory.ofBytes_eq_ok hm).1
  obtain ⟨unvalued, unheld⟩ := isTaken_eq_false_iff.1 free
  cases he
  have named : (s.step (.create name (.frozen data))).session.value? name =
      some (.source (.buffer ⟨s.store.memories.length, true⟩)) := by
    rw [session]
    exact Names.lookup?_add_self unvalued _
  refine ⟨⟨contains, ?_, fun other admits => ?_⟩, _, named, rfl⟩
  · rw [session]
    exact (congrArg (Memory.views · true) (Store.memory_addMemory s.store m)).trans
      (fresh.views true)
  rcases (step_move hs _).admits_cases admits with before | ⟨-, ⟨⟨_, created⟩, -⟩ | ⟨_, none, -⟩⟩
  · exact absurd (before.present hs) (Nat.lt_irrefl _)
  · cases created
    cases admits with
    | handle of _ access =>
      obtain rfl := Value.source.inj (Option.some.inj (named.symm.trans of))
      cases access
    | held of =>
      rw [session] at of
      exact absurd (of.symm.trans unheld) nofun
  · cases none

/-- A buffer whose lock is not poisoned gets a further handle under every name that is free. -/
theorem same_handle {clone : String} {b : Buffer}
    (of : s.value? name = some (.source (.buffer b)))
    (unpoisoned : (s.store.memory b.memory).poisoned = false) (free : s.isTaken clone = false) :
    (s.step (.derive clone name .same)).session.value? clone = some (.source (.buffer b)) := by
  have told := Memory.length_of_unpoisoned unpoisoned
  rw [step_derive free]
  simp only [derive, of, Derivation.source?, introduce, info, told]
  exact Names.lookup?_add_self (isTaken_eq_false_iff.1 free).1 _

/-- **Handles for reading only change nothing.**  A step that goes through a handle for reading
only, through a handle that is derived from one, or through a pointer or a view that is acquired
from one under any contract changes no byte of any memory, no size, and no number of views for
writing; and none of these may write or holds a lease for writing.  So the first handle to a memory
that is made frozen and all its clones show the bytes that the memory was made with, and no view of
it is ever for writing. -/
theorem readers_change_nothing (steps : List Step) :
    (∀ name, Reader steps name →
      (∀ id, ¬ (after {} steps).Admits name id) ∧
      ∀ t, t.subject? = some name → ∀ id,
        let m := (after {} steps).store.memory id
        let m' := (after {} (steps ++ [t])).store.memory id
        m'.bytes = m.bytes ∧ m'.size = m.size ∧ m'.exclusive = m.exclusive) ∧
    ∀ before name data later a, steps = before ++ .create name (.frozen data) :: later →
      ((after {} before).step (.create name (.frozen data))).reply = .answer a →
      let id := (after {} before).store.memories.length
      let s := after {} steps
      (∃ b, (after {} (before ++ [.create name (.frozen data)])).value? name =
          some (.source (.buffer b)) ∧ b.memory = id) ∧
        (s.store.memory id).exclusive = 0 ∧
        ∀ other b, s.value? other = some (.source (.buffer b)) → b.memory = id →
          b.readOnly = true ∧
            (s.step (.call other .contents)).reply = .answer (.bytes data) ∧
            ∀ clone, s.isTaken clone = false →
              (s.step (.derive clone other .same)).session.value? clone =
                some (.source (.buffer b)) := by
  refine ⟨fun name reader => ⟨reader.not_admits, fun t through id => ?_⟩, ?_⟩
  · have kept := reader.unwritten through id
    exact ⟨kept.bytes, kept.place.size, kept.writers⟩
  · rintro before name data later a rfl created id s
    have start : (after {} before).Sound := after_sound sound_empty before
    obtain ⟨first, handle⟩ := create_frozen start created
    rw [after_concat]
    have hf : s.Frozen id data := by
      have split : s = ((after {} before).step (.create name (.frozen data))).session.after later :=
        after_append {} before (.create name (.frozen data) :: later)
      rw [split]
      exact after_keeps (fun m hs h => m.frozen hs h) (step_sound start _) first later
    refine ⟨handle, hf.unlent, fun other b of same => ?_⟩
    have owned : (Source.buffer b).memory? = some id := congrArg some same
    have contains : s.Contains b.memory data := same ▸ hf.contains
    exact ⟨isReadOnly_of_not_admits (hf.unadmitted other) of owned, contains.contents_reply of,
      fun clone free => same_handle of contains.unpoisoned free⟩

/-- A pointer that is acquired from every other item of a tensor for reading only does not write,
while the tensor does; and a frozen buffer is neither resized nor lent for writing. -/
theorem readers_change_nothing_pointer :
    let steps : List Step := [.create "tensor" (.zeros .uint8 [4] .rowMajor),
      .derive "reader" "tensor" .readOnly, .derive "half" "reader" (.step 0 2),
      .acquire "pointer" "half" .stridedPointer, .call "tensor" (.set [0] 7),
      .create "frozen" (.frozen [1, 2]), .derive "clone" "frozen" .same,
      .call "clone" (.resize 9), .call "frozen" (.lend (.ofFlags [.writable]))]
    let s := Session.after {} steps
    let poked := Session.after {} (steps ++ [.use "pointer" (.poke .uint8 0 9)])
    (s.store.memory 0).bytes = [7, 0, 0, 0] ∧ (poked.store.memory 0).bytes = [7, 0, 0, 0] ∧
      (s.step (.call "clone" .contents)).reply = .answer (.bytes [1, 2]) ∧
      (s.store.memory 1).exclusive = 0 := by
  have of : (Session.after {} [.create "tensor" (.zeros .uint8 [4] .rowMajor),
      .derive "reader" "tensor" .readOnly]).value? "reader" =
    some (.source (.tensor { memory := 0, shape := [4], strides := [1], readOnly := true })) := rfl
  have half := @Reader.derive _ _ "half" _ (.step 0 2) .derive (.handle of rfl) rfl rfl
  have pointer := @Reader.acquire _ "pointer" _ .stridedPointer half rfl rfl
  have written := @Reader.later _ _ (.call "tensor" (.set [0] 7)) pointer rfl
  have created := @Reader.later _ _ (.create "frozen" (.frozen [1, 2])) written rfl
  have cloned := @Reader.later _ _ (.derive "clone" "frozen" .same) created rfl
  have resized := @Reader.later _ _ (.call "clone" (.resize 9)) cloned rfl
  have lent := @Reader.later _ _ (.call "frozen" (.lend (.ofFlags [.writable]))) resized rfl
  obtain ⟨through, frozen⟩ := readers_change_nothing
    [.create "tensor" (.zeros .uint8 [4] .rowMajor), .derive "reader" "tensor" .readOnly,
      .derive "half" "reader" (.step 0 2), .acquire "pointer" "half" .stridedPointer,
      .call "tensor" (.set [0] 7), .create "frozen" (.frozen [1, 2]),
      .derive "clone" "frozen" .same, .call "clone" (.resize 9),
      .call "frozen" (.lend (.ofFlags [.writable]))]
  obtain ⟨kept, -, -⟩ := (through "pointer" lent).2 (.use "pointer" (.poke .uint8 0 9)) rfl 0
  obtain ⟨-, unlent, shown⟩ := frozen
    [.create "tensor" (.zeros .uint8 [4] .rowMajor), .derive "reader" "tensor" .readOnly,
      .derive "half" "reader" (.step 0 2), .acquire "pointer" "half" .stridedPointer,
      .call "tensor" (.set [0] 7)] "frozen" [1, 2] _ _ rfl rfl
  exact ⟨by decide +kernel, kept.trans (by decide +kernel), (shown "clone" ⟨1, true⟩ rfl rfl).2.1,
    unlent⟩

end Session
end MemoryLease
