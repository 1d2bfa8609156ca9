import MemoryLease.Item
import MemoryLease.View

/-!
# What the steps of a session answer

A step answers with what the call that it stands for returned, or with how it failed.
-/

namespace MemoryLease
namespace Session

/-- What a value tells of itself. -/
inductive Info where
  | buffer (length : Nat) (readOnly : Bool)
  | tensor (shape : List Nat) (strides : List Int) (readOnly : Bool) (length : Except Fault Nat)
      (isEmpty : Except Fault Bool) (rowMajor columnMajor : Bool)
  /-- The contracts under which a foreign source has been asked. -/
  | foreign (seen : List Contract)
  | plain (typeName : String)

/-- What a step answers. -/
inductive Answer where
  | done
  | info (info : Info)
  | bytes (bytes : List UInt8)
  | item (item : ItemType) (value : Int)
  | items (item : ItemType) (values : List Int)
  | view (view : MemoryView)
  | address (address : Address)
  | truth (truth : Bool)
  | text (text : String)

/-- How a step goes. -/
inductive Reply where
  /-- The step does not fit what its names stand for.  It changes nothing. -/
  | invalid
  /-- The step was carried out. -/
  | answer (answer : Answer)
  /-- The step was carried out as far as it goes, and failed. -/
  | failed (failure : Failure)

/-- The reply of a call that fails or answers. -/
def Reply.of : Except Failure Answer → Reply
  | .ok a => .answer a
  | .error f => .failed f

/-- The reply of a call that a refusal can stop. -/
def Reply.unlessRefused : Except Refusal Answer → Reply
  | .ok a => .answer a
  | .error refusal => .failed (.refused refusal)

/-- The reply of a call that a fault can stop. -/
def Reply.unlessFaulted : Except Fault Answer → Reply
  | .ok a => .answer a
  | .error fault => .failed (.faulted fault)

/-- The outstanding views of a source. -/
inductive Outstanding where
  /-- Of a memory, unless its lock is poisoned. -/
  | owned (views : Except Fault Nat)
  /-- Of a foreign source: what it lent so far, and what came back. -/
  | foreign (granted returned : Nat)

end Session
end MemoryLease
