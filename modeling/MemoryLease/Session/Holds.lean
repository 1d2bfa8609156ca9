import MemoryLease.Session.Basic
import MemoryLease.Session.Step

/-!
# The pointers and views of a session

Pointers and views are acquired from values, used as foreign code uses them, and let go of.
Whatever way one goes, what it still holds is given back first, so every lease is returned once; and
the memory that it was of goes as well if nobody else keeps it.  Foreign code finds nothing in a
memory that has been freed.
-/

namespace MemoryLease
namespace Session

/-- What a request acquires from a value. -/
def Request.hold (s : Store) (v : Value) : Request → Effect Hold
  | .simplePointer => (s.simplePointer v).map .pointer
  | .stridedPointer => (s.stridedPointer v).map .pointer
  | .pointerUnder c => (s.pointerUnder v c).map .pointer
  | .viewUnder c => (s.acquire v c).map .view

/-- A pointer or a view is acquired. -/
def acquire (s : Session) (name source : String) (request : Request) : Turn :=
  match s.value? source with
  | none => s.replying .invalid
  | some v =>
    let made := request.hold s.store v
    let left := { s with store := made.store }
    match made.result with
    | .error failure => { session := left, events := made.events, reply := .failed failure }
    | .ok h =>
      { session := left.addHold name h
        events := made.events
        reply := .unlessRefused (h.shown.map .view) }

/-- What is held is given back, if it has not been. -/
def giveBack (s : Session) (h : Hold) : Turn :=
  match h.lease? with
  | none => s.replying (.answer .done)
  | some lease => s.carriedOut (s.store.giveBack lease) fun _ => .done

/-- A pointer or a view is released.  A pointer stays where it is, a view goes. -/
def release (s : Session) (name : String) (h : Hold) : Turn :=
  let back := s.giveBack h
  match h with
  | .pointer p =>
    { back with
      session := (back.session.setHold name (.pointer ⟨p.origin, none⟩)).letGo h.memory? }
  | .view _ => { back with session := (back.session.forget name).letGo h.memory? }

/-- The items that foreign code finds through a view of a memory, if they all lie within it. -/
def walked (m : Memory) (v : MemoryView) : Option (List Int) :=
  v.itemOffsets.mapM (m.peek m.item)

/-- Foreign code reads all items of what is held. -/
def walk (s : Session) (h : Hold) : Reply :=
  match h.shown, s.reached? h with
  | .error refusal, _ => .failed (.refused refusal)
  | .ok view, some id =>
    let m := s.store.memory id
    match walked m view with
    | some values => .answer (.items m.item values)
    | none => .invalid
  | .ok _, none => .invalid

/-- Foreign code reads an item of what is held, if it is told an address to read at. -/
def peekAt (s : Session) (h : Hold) (address : Except Refusal Address) (item : ItemType)
    (offset : Nat) : Reply :=
  match address, s.reached? h with
  | .error refusal, _ => .failed (.refused refusal)
  | .ok _, some id =>
    match (s.store.memory id).peek item offset with
    | some value => .answer (.item item value)
    | none => .invalid
  | .ok _, none => .invalid

/-- Foreign code writes an item of what is held, if it is told an address to write at. -/
def pokeAt (s : Session) (h : Hold) (address : Except Refusal Address) (item : ItemType)
    (offset : Nat) (value : Int) : Turn :=
  match address, s.reached? h with
  | .error refusal, _ => s.replying (.failed (.refused refusal))
  | .ok _, some id =>
    match (s.store.memory id).poke item offset value with
    | some m => { s with store := s.store.setMemory id m }.replying (.answer .done)
    | none => s.replying .invalid
  | .ok _, none => s.replying .invalid

/-- Foreign code reads an item at the address that a view tells (`base_ptr`). -/
def peekBase (s : Session) (h : Hold) (item : ItemType) (offset : Nat) : Reply :=
  s.peekAt h (h.shown.map MemoryView.address) item offset

/-- Foreign code writes an item at the address that a view tells (`base_ptr`).  The view tells it
whether or not the memory must not be written (`is_read_only`), and it is for foreign code to heed
that. -/
def pokeBase (s : Session) (h : Hold) (item : ItemType) (offset : Nat) (value : Int) : Turn :=
  if h.shown.toOption.any MemoryView.readOnly then s.replying .invalid
  else s.pokeAt h (h.shown.map MemoryView.address) item offset value

/-- A pointer is used. -/
def usePointer (s : Session) (p : Pointer) : Usage → Turn
  | .address | .number => s.replying (.unlessRefused (p.address.map .address))
  | .readAddress => s.replying (.unlessRefused (p.readAddress.map .address))
  | .writeAddress => s.replying (.unlessRefused (p.writeAddress.map .address))
  | .text => s.replying (.answer (.text p.text))
  | .isReleased => s.replying (.answer (.truth p.isReleased))
  | .peek item offset => s.replying (s.peekAt (.pointer p) p.readAddress item offset)
  | .poke item offset value => s.pokeAt (.pointer p) p.writeAddress item offset value
  | _ => s.replying .invalid

/-- A pointer or a view is used. -/
def use (s : Session) (name : String) (usage : Usage) : Turn :=
  match s.hold? name with
  | none => s.replying .invalid
  | some h =>
    match usage, h with
    | .view, h => s.replying (.unlessRefused (h.shown.map .view))
    | .record, h => s.replying (.answer (.text h.record))
    | .walk, h => s.replying (s.walk h)
    | .peekBase item offset, h => s.replying (s.peekBase h item offset)
    | .pokeBase item offset value, h => s.pokeBase h item offset value
    | .release, h => s.release name h
    | usage, .pointer p => s.usePointer p usage
    | _, .view _ => s.replying .invalid

/-- A name stands for nothing any more.  What it held is given back. -/
def drop (s : Session) (name : String) : Turn :=
  match s.hold? name with
  | some h =>
    let back := s.giveBack h
    { back with session := (back.session.forget name).letGo h.memory? }
  | none =>
    match s.value? name with
    | some v => ((s.forget name).letGo v.memory?).replying (.answer .done)
    | none => s.replying .invalid

end Session
end MemoryLease
