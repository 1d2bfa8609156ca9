import MemoryLease.Region

/-!
# Events

What a call records about itself while it runs, in the log.  Each event has a level and one wording,
which does not tell the number of a memory.
-/

namespace MemoryLease

/-- How much an event matters. -/
inductive Level where
  | trace | debug | warn
deriving DecidableEq

/-- The word for a level. -/
def Level.text : Level → String
  | trace => "TRACE"
  | debug => "DEBUG"
  | warn => "WARN"

/-- Something that a call records. -/
inductive Event where
  /-- A memory, told by its number, has one more outstanding view. -/
  | registered (memory : Nat) (writable : Bool) (size : Nat) (base : Address)
  /-- A memory, told by its number, has one outstanding view less, and `outstanding` of them
  left. -/
  | released (memory : Nat) (writable : Bool) (outstanding : Nat)
  /-- A memory kept its size because of outstanding views. -/
  | resizeRefused (size outstanding : Nat)
  /-- A contract contradicts itself. -/
  | contractRejected (contract : Contract) (refusal : Refusal)
  /-- A value owns no memory that it could show. -/
  | unsupported (typeName : String)
  /-- A source lent memory for writing that must not be written. -/
  | readOnlyLent (contract : Contract)
  /-- A source stated a region that does not fit together. -/
  | inconsistentRegion (what : Inconsistency)
  /-- A source lent memory that does not meet the contract. -/
  | regionRejected (length : Nat) (refusal : Refusal)
  /-- A view has been handed out. -/
  | exported (length : Nat) (address : Address) (contract : Contract)
deriving DecidableEq

namespace Event

/-- The level of an event. -/
def level : Event → Level
  | registered .. | released .. | exported .. => .trace
  | resizeRefused .. | contractRejected .. | unsupported .. | regionRejected .. => .debug
  | readOnlyLent .. | inconsistentRegion .. => .warn

private def access (writable : Bool) : String :=
  if writable then "writable" else "read-only"

/-- The wording of an event. -/
def text : Event → String
  | registered _ writable size base =>
    "registered " ++ access writable ++ s!" export of {size} bytes at " ++ base.hex
  | released _ writable outstanding =>
    "released " ++ access writable ++ s!" export, {outstanding} outstanding"
  | resizeRefused size outstanding =>
    s!"refused resize to {size} bytes with {outstanding} exports outstanding"
  | contractRejected contract refusal =>
    "rejected contract " ++ contract.text ++ ": " ++ refusal.message
  | unsupported typeName => "value of type " ++ typeName ++ " has no bufferable capability"
  | readOnlyLent contract =>
    "source exported read-only memory for a writable contract " ++ contract.text
  | inconsistentRegion .dimensions =>
    "source reported a shape and strides of different dimensionality"
  | inconsistentRegion .length => "source reported a length that does not match its shape"
  | regionRejected length refusal => s!"export of {length} bytes rejected: " ++ refusal.message
  | exported length address contract =>
    s!"exported {length} bytes at " ++ address.hex ++ " under contract " ++ contract.text

/-- An event as a line of a log. -/
def line (e : Event) : String := e.level.text ++ " " ++ e.text

end Event
end MemoryLease
