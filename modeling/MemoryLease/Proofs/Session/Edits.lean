import MemoryLease.Proofs.Buffer.Bytes
import MemoryLease.Proofs.Session.Steps

/-!
# Steps that change bytes

A step that is to change the bytes of a buffer writes to a handle, resizes the buffer through one,
or writes as foreign code does (`Session.attempt?`).  It does so, or leaves everything as it is, or
it is a resize that faults (`Session.attempted`), and its reply tells which (`Session.edit`).
-/

namespace MemoryLease
namespace Session

variable {s : Session} {t : Step} {name : String} {id : Nat} {e : Edit}

/-! ### What a step does to the bytes -/

/-- The memory of the buffer of a name. -/
def bufferOf? (s : Session) (name : String) : Option Nat :=
  match s.value? name with
  | some (.source (.buffer b)) => some b.memory
  | _ => none

/-- The memory of what is held under a name. -/
def heldOf? (s : Session) (name : String) : Option Nat :=
  match (s.hold? name).bind Hold.lease? with
  | some (.memory id _) => some id
  | _ => none

/-- The memory whose bytes a step is to change, and how. -/
def attempt? (s : Session) : Step → Option (Nat × Edit)
  | .call name (.write offset data) => (s.bufferOf? name).map (·, .overwrite offset data)
  | .call name (.resize size) => (s.bufferOf? name).map (·, .resize size)
  | .use name (.poke item offset value) | .use name (.pokeBase item offset value) =>
    (s.heldOf? name).map (·, .overwrite offset (item.encode value))
  | _ => none

/-- What becomes of an edit, as the reply tells. -/
def Reply.edit (e : Edit) : Reply → Edit
  | .answer _ => e
  | .failed (.faulted _) =>
    match e with
    | .resize _ => .fault
    | _ => .keep
  | _ => .keep

/-- What a step does to the bytes of a memory, as its reply tells. -/
def edit (s : Session) (id : Nat) (t : Step) : Edit :=
  match s.attempt? t with
  | some (other, e) => if other = id then (s.step t).reply.edit e else .keep
  | none => .keep

/-- What a list of steps does to the bytes of a memory. -/
def edits (s : Session) (id : Nat) : List Step → List Edit
  | [] => []
  | t :: ts => s.edit id t :: (s.step t).session.edits id ts

/-- A name stands for a buffer of a memory exactly if its value is one. -/
theorem bufferOf?_eq_some_iff :
    s.bufferOf? name = some id ↔
      ∃ b, s.value? name = some (.source (.buffer b)) ∧ b.memory = id := by
  unfold bufferOf?
  split
  · rename_i b of
    simp [of]
  · rename_i other
    refine ⟨nofun, ?_⟩
    rintro ⟨b, of, -⟩
    exact (other b of).elim

/-- A name holds a memory exactly if it holds a lease of it. -/
theorem heldOf?_eq_some_iff :
    s.heldOf? name = some id ↔
      ∃ h w, s.hold? name = some h ∧ h.lease? = some (.memory id w) := by
  unfold heldOf?
  constructor
  · intro hi
    split at hi
    · rename_i other w hl
      obtain ⟨h, hh, hl⟩ := Option.bind_eq_some_iff.1 hl
      obtain rfl := Option.some.inj hi
      exact ⟨h, w, hh, hl⟩
    · cases hi
  · rintro ⟨h, w, hh, hl⟩
    simp [hh, hl]

/-- Whatever address foreign code writes at, it is to change the bytes of what is held. -/
theorem attempt?_of_poked? {usage : Usage} {item : ItemType} {offset : Nat} {value : Int}
    (there : s.heldOf? name = some id) (pokes : usage.poked? = some (item, offset, value)) :
    s.attempt? (.use name usage) = some (id, .overwrite offset (item.encode value)) := by
  cases usage with
  | poke | pokeBase =>
    cases pokes
    rw [attempt?, there]
    rfl
  | _ => cases pokes

/-- An edit that is not answered changes no byte. -/
theorem Reply.apply_edit {reply : Reply} (h : ∀ a, reply ≠ .answer a) (e : Edit)
    (bytes : List UInt8) : (reply.edit e).apply bytes = bytes := by
  unfold Reply.edit
  split
  · rename_i a
    exact absurd rfl (h a)
  · split <;> rfl
  · rfl

/-! ### Steps that are to change the bytes -/

/-- What comes of a step that is to change the bytes of a memory. -/
inductive Attempted (s : Session) (id : Nat) (e : Edit) : Turn → Prop
  /-- The bytes change. -/
  | done {m : Memory} {events : List Event} {a : Answer}
      (bytes : m.bytes = e.apply (s.store.memory id).bytes)
      (lock : m.poisoned = (s.store.memory id).poisoned) :
      Attempted s id e { session := s.withMemory id m, events, reply := .answer a }
  /-- Nothing changes. -/
  | undone {events : List Event} {reply : Reply} (unanswered : ∀ a, reply ≠ .answer a) :
      Attempted s id e { session := s, events, reply }
  /-- A resize faults. -/
  | broken {m : Memory} {events : List Event} {fault : Fault} {size : Nat}
      (resizing : e = .resize size) :
      Attempted s id e
        { session := s.withMemory id m, events, reply := .failed (.faulted fault) }

/-- A write to a buffer attempts to overwrite the bytes of its memory. -/
theorem write_attempted {b : Buffer} (of : s.value? name = some (.source (.buffer b)))
    (offset : Nat) (data : List UInt8) :
    s.Attempted b.memory (.overwrite offset data) (s.step (.call name (.write offset data))) := by
  rw [write_turn of]
  rcases b.write_cases (s.store.memory b.memory) offset data with
    ⟨failure, failed⟩ | ⟨-, -, block, fits, written⟩
  · rw [failed, writing_of_failure]
    exact .undone fun a h => by cases h
  · rw [written]
    exact .done (Memory.bytes_of_splice? fits) rfl

/-- A resize of a buffer attempts to resize the bytes of its memory. -/
theorem resize_attempted {b : Buffer} (of : s.value? name = some (.source (.buffer b)))
    (size : Nat) :
    s.Attempted b.memory (.resize size) (s.step (.call name (.resize size))) := by
  rw [resize_turn of]
  simp only [carriedOut, Store.resize]
  have outcome := b.resizing (s.store.memory b.memory) size
  generalize b.resize (s.store.memory b.memory) size = resized at outcome
  cases outcome with
  | @kept result same =>
    cases result with
    | error failure =>
      simp only [Store.setMemory_memory]
      exact .undone fun a h => by cases h
    | ok =>
      refine .done (m := s.store.memory b.memory) ?_ rfl
      rw [same rfl, ← Memory.length_bytes, Edit.apply_resize_length]
  | resized _ _ fits fitted => exact .done (fitted.trans (Memory.bytes_fitted _ _)) rfl
  | poisoned => exact .broken rfl

/-- Foreign code that writes at an address attempts to overwrite the bytes of the memory that it
holds. -/
theorem pokeAt_attempted {h : Hold} {w : Bool} (hl : h.lease? = some (.memory id w))
    (address : Except Refusal Address) (item : ItemType) (offset : Nat) (value : Int) :
    s.Attempted id (.overwrite offset (item.encode value))
      (s.pokeAt h address item offset value) := by
  unfold pokeAt
  split
  · exact .undone fun a h => by cases h
  · rename_i other reached
    obtain rfl := memory_of_reached? hl reached
    unfold Memory.poke
    cases fits : (s.store.memory other).block.splice? offset (item.encode value) with
    | none => exact .undone fun a h => by cases h
    | some block => exact .done (Memory.bytes_of_splice? fits) rfl
  · exact .undone fun a h => by cases h

/-- Foreign code that writes through a pointer attempts to overwrite the bytes of the memory that it
holds. -/
theorem poke_attempted {h : Hold} {w : Bool} (of : s.hold? name = some h)
    (hl : h.lease? = some (.memory id w)) (item : ItemType) (offset : Nat) (value : Int) :
    s.Attempted id (.overwrite offset (item.encode value))
      (s.step (.use name (.poke item offset value))) := by
  cases h with
  | view v =>
    have used : s.step (.use name (.poke item offset value)) = s.replying .invalid := by
      rw [step_use, use, of]
    rw [used]
    exact .undone fun a h => by cases h
  | pointer p =>
    have used : s.step (.use name (.poke item offset value)) =
        s.pokeAt (.pointer p) p.writeAddress item offset value := by
      rw [step_use, use, of]
      rfl
    rw [used]
    exact pokeAt_attempted hl _ _ _ _

/-- Foreign code that writes at the address of a view attempts to overwrite the bytes of the memory
that it holds. -/
theorem pokeBase_attempted {h : Hold} {w : Bool} (of : s.hold? name = some h)
    (hl : h.lease? = some (.memory id w)) (item : ItemType) (offset : Nat) (value : Int) :
    s.Attempted id (.overwrite offset (item.encode value))
      (s.step (.use name (.pokeBase item offset value))) := by
  rw [pokeBase_turn of, pokeBase]
  split
  · exact .undone fun a h => by cases h
  · exact pokeAt_attempted hl _ _ _ _

/-- **A step that is to change the bytes of a memory** does so, changes nothing, or is a resize that
faults. -/
theorem attempted (ha : s.attempt? t = some (id, e)) : s.Attempted id e (s.step t) := by
  unfold attempt? at ha
  split at ha
  · obtain ⟨other, hb, he⟩ := Option.map_eq_some_iff.1 ha
    cases he
    obtain ⟨b, of, rfl⟩ := bufferOf?_eq_some_iff.1 hb
    exact write_attempted of _ _
  · obtain ⟨other, hb, he⟩ := Option.map_eq_some_iff.1 ha
    cases he
    obtain ⟨b, of, rfl⟩ := bufferOf?_eq_some_iff.1 hb
    exact resize_attempted of _
  · obtain ⟨other, hb, he⟩ := Option.map_eq_some_iff.1 ha
    cases he
    obtain ⟨h, w, of, hl⟩ := heldOf?_eq_some_iff.1 hb
    exact poke_attempted of hl _ _ _
  · obtain ⟨other, hb, he⟩ := Option.map_eq_some_iff.1 ha
    cases he
    obtain ⟨h, w, of, hl⟩ := heldOf?_eq_some_iff.1 hb
    exact pokeBase_attempted of hl _ _ _
  · cases ha

/-- An attempt on one memory leaves the others alone. -/
theorem Attempted.memory_of_ne {other : Nat} {turn : Turn} (h : s.Attempted other e turn)
    (hne : other ≠ id) : turn.session.store.memory id = s.store.memory id := by
  cases h with
  | undone => rfl
  | done => exact Store.memory_setMemory_of_ne hne _
  | broken => exact Store.memory_setMemory_of_ne hne _

/-- Changing bytes changes no value. -/
theorem Attempted.values {turn : Turn} (h : s.Attempted id e turn) :
    turn.session.values = s.values := by
  cases h <;> rfl

end Session
end MemoryLease
