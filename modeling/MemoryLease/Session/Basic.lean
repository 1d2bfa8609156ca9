import MemoryLease.Pointer
import MemoryLease.Session.Answer
import MemoryLease.Session.Names

/-!
# Sessions

A session is a store, the values that have a name, and the pointers and views that have one.  No
name stands for a value and for something else at the same time.

Every handle to a memory and every lease of it owns a share of the memory (`SharedStorage`), and
the memory is freed with the last of them (`Session.letGo`).  A lease that is lost owns no share.
-/

namespace MemoryLease
namespace Session

/-- A pointer or a view in the hands of the session. -/
inductive Hold where
  | pointer (pointer : Pointer)
  | view (view : ExportedView)
deriving DecidableEq

namespace Hold

/-- The lease that a pointer or a view has to return. -/
def lease? : Hold → Option Lease
  | pointer p => p.exported.map ExportedView.lease
  | view v => some v.lease

/-- The memory that a pointer or a view holds a lease of, by its number. -/
def memory? (h : Hold) : Option Nat := h.lease?.bind Lease.memory?

/-- The description of the memory. -/
def shown : Hold → Except Refusal MemoryView
  | pointer p => p.view
  | view v => .ok v.view

/-- A pointer or a view as a record. -/
def record : Hold → String
  | pointer p => p.record
  | view v => v.record

end Hold
end Session

/-- The state of a session. -/
structure Session where
  /-- What outlives the names. -/
  store : Store := {}
  /-- The values, by name. -/
  values : Session.Names Value := []
  /-- The pointers and views, by name. -/
  holds : Session.Names Session.Hold := []
deriving DecidableEq

namespace Session

/-- What a step leaves behind: the session, what was recorded, and the reply. -/
structure Turn where
  /-- The session after the step. -/
  session : Session
  /-- What the step recorded. -/
  events : List Event := []
  /-- The reply. -/
  reply : Reply

/-- The turn that changes nothing. -/
def replying (s : Session) (reply : Reply) : Turn := { session := s, reply }

/-- The turn of a call on the store. -/
def carriedOut {α : Type} (s : Session) (e : Effect α) (answer : α → Answer) : Turn :=
  { session := { s with store := e.store }
    events := e.events
    reply := .of (e.result.map answer) }

/-- The value of a name. -/
def value? (s : Session) (name : String) : Option Value := s.values.lookup? name

/-- The pointer or view of a name. -/
def hold? (s : Session) (name : String) : Option Hold := s.holds.lookup? name

/-- Whether a name stands for something. -/
def isTaken (s : Session) (name : String) : Bool :=
  (s.value? name).isSome || (s.hold? name).isSome

/-- The session with a name for a value. -/
def addValue (s : Session) (name : String) (v : Value) : Session :=
  { s with values := s.values.add name v }

/-- The session with a name for a pointer or a view. -/
def addHold (s : Session) (name : String) (h : Hold) : Session :=
  { s with holds := s.holds.add name h }

/-- The session in which a name stands for another state of its pointer or view. -/
def setHold (s : Session) (name : String) (h : Hold) : Session :=
  { s with holds := s.holds.replace name h }

/-- The session in which a name stands for nothing. -/
def forget (s : Session) (name : String) : Session :=
  { s with values := s.values.remove name, holds := s.holds.remove name }

/-! ### Who keeps a memory -/

/-- The number of the handles to a memory, and of the pointers and views that hold a lease of it. -/
def keepers (s : Session) (id : Nat) : Nat :=
  (s.values.countP fun entry => entry.2.memory? = some id) +
    s.holds.countP fun entry => entry.2.memory? = some id

/-- The memories that have been freed once a memory, if it is one, has lost a keeper. -/
def freedAfter (s : Session) : Option Nat → List Nat
  | some id => if s.keepers id = 0 then s.store.freed ++ [id] else s.store.freed
  | none => s.store.freed

/-- The session in which a memory, if it is one, has lost a keeper.  If that was the last one, the
memory is freed. -/
def letGo (s : Session) (id? : Option Nat) : Session :=
  { s with store := { s.store with freed := s.freedAfter id? } }

@[simp] theorem holds_letGo (s : Session) (id? : Option Nat) : (s.letGo id?).holds = s.holds := rfl

/-- The memory that foreign code reaches through a pointer or a view, by its number: the one that it
holds a lease of, unless that has been freed. -/
def reached? (s : Session) (h : Hold) : Option Nat :=
  h.memory?.filter fun id => id ∉ s.store.freed

end Session
end MemoryLease
