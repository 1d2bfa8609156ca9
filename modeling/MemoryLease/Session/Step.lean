import MemoryLease.Pointer

/-!
# The steps of a session

A session works on things that have a name: values, and the pointers and views acquired from them.
A step makes a value, makes a further handle to the memory of one, calls a value, acquires a pointer
or a view, uses one, or lets go of a name.  What is made or derived is asked at once what it is; a
clone is not.
-/

namespace MemoryLease
namespace Session

/-- A value to be made. -/
inductive Creation where
  /-- A buffer with the given bytes. -/
  | bytes (data : List UInt8)
  /-- A buffer of zeros. -/
  | zeroed (length : Nat)
  /-- A buffer with the given bytes that must not be written. -/
  | frozen (data : List UInt8)
  /-- A tensor of zeros. -/
  | zeros (item : ItemType) (shape : List Nat) (order : MemoryOrder)
  /-- A tensor of the given items. -/
  | items (item : ItemType) (items : List Int) (shape : List Nat) (order : MemoryOrder)
  /-- A foreign source. -/
  | foreign (description : Region.Description) (refusal : Option Refusal)
  /-- A value without memory. -/
  | plain (typeName : String)
deriving DecidableEq

/-- A further handle to the memory of a value. -/
inductive Derivation where
  /-- The same handle again. -/
  | same
  /-- Every so many items along an axis. -/
  | step (axis step : Nat)
  /-- The axes in reverse. -/
  | transpose
  /-- The same items for reading only. -/
  | readOnly
deriving DecidableEq

/-- A call of a value. -/
inductive Call where
  /-- What the value tells of itself. -/
  | info
  /-- The bytes of a buffer or the items of a tensor. -/
  | contents
  /-- The item at an index. -/
  | get (index : List Nat)
  /-- The item at an index is replaced. -/
  | set (index : List Nat) (value : Int)
  /-- Bytes are written to a buffer. -/
  | write (offset : Nat) (data : List UInt8)
  /-- A buffer gets a new size. -/
  | resize (length : Nat)
  /-- A tensor as a record. -/
  | record
  /-- What a foreign source will lend from now on. -/
  | redescribe (description : Region.Description) (refusal : Option Refusal)
  /-- The source lends its memory without negotiation, and the lease is lost. -/
  | lend (contract : Contract)
deriving DecidableEq

/-- A pointer or a view to be acquired. -/
inductive Request where
  /-- A pointer for reading memory without gaps. -/
  | simplePointer
  /-- A pointer for reading memory by extents and strides. -/
  | stridedPointer
  /-- A pointer under a contract. -/
  | pointerUnder (contract : Contract)
  /-- A view under a contract. -/
  | viewUnder (contract : Contract)
deriving DecidableEq

/-- A use of a pointer or a view. -/
inductive Usage where
  /-- The view. -/
  | view
  /-- The pointer or view as a record. -/
  | record
  /-- The address of a pointer. -/
  | address
  /-- The address of a pointer as a number. -/
  | number
  /-- The address to read at. -/
  | readAddress
  /-- The address to write at. -/
  | writeAddress
  /-- A pointer in running text. -/
  | text
  /-- Whether a pointer has given its view back. -/
  | isReleased
  /-- The view is given back. -/
  | release
  /-- Foreign code reads an item at a byte offset from the address. -/
  | peek (item : ItemType) (offset : Nat)
  /-- Foreign code writes an item at a byte offset from the address. -/
  | poke (item : ItemType) (offset : Nat) (value : Int)
  /-- Foreign code reads an item at a byte offset from the base address that the view tells. -/
  | peekBase (item : ItemType) (offset : Nat)
  /-- Foreign code writes an item at a byte offset from the base address that the view tells. -/
  | pokeBase (item : ItemType) (offset : Nat) (value : Int)
  /-- Foreign code reads all items. -/
  | walk
deriving DecidableEq

/-- A step of a session. -/
inductive Step where
  | create (name : String) (creation : Creation)
  | derive (name source : String) (derivation : Derivation)
  | clone (name source : String)
  | call (name : String) (call : Call)
  | acquire (name source : String) (request : Request)
  | use (name : String) (usage : Usage)
  | drop (name : String)
deriving DecidableEq

end Session
end MemoryLease
