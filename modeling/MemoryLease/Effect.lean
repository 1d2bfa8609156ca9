import MemoryLease.Event
import MemoryLease.Store

/-!
# Effects

A call on a store may change it, record what it does, and fail.  What it has changed and recorded
before it fails stays.
-/

namespace MemoryLease

/-- What a call on a store leaves behind: the store, what was recorded, and how it went. -/
structure Effect (α : Type) where
  /-- The store after the call. -/
  store : Store
  /-- What the call recorded. -/
  events : List Event := []
  /-- The result. -/
  result : Except Failure α

/-- An effect with another form of its result. -/
def Effect.map {α β : Type} (f : α → β) (e : Effect α) : Effect β :=
  { e with result := e.result.map f }

end MemoryLease
