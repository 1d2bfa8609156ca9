import MemoryLease.Acquisition

/-!
# Pointers

A pointer is an address for foreign functions together with the view that keeps it valid.  The
address is noted when the pointer is made and never changes.  Once the pointer has given its view
back it does not tell the address any more.

A pointer is made by `make_ptr` under any contract, by `ptr` for simple memory and by `nc_ptr` for
strided memory.
-/

namespace MemoryLease

/-- An address and the view that keeps it valid (`Pointer`). -/
structure Pointer where
  /-- The address at the time the pointer was made. -/
  origin : Address
  /-- The view, until it is given back. -/
  exported : Option ExportedView
deriving DecidableEq

namespace Pointer

/-- The pointer to what a view shows (`Pointer.new`). -/
def ofView (v : ExportedView) : Pointer := ⟨v.view.address, some v⟩

/-- Whether the pointer has given its view back (`is_released`). -/
def isReleased (p : Pointer) : Bool := p.exported.isNone

/-- The view of a pointer (`Pointer.view`). -/
def view (p : Pointer) : Except Refusal MemoryView :=
  match p.exported with
  | some v => .ok v.view
  | none => .error .useAfterRelease

/-- The address of a pointer (`Pointer.address`, and `try_from` as a number). -/
def address (p : Pointer) : Except Refusal Address :=
  p.view.map fun _ => p.origin

/-- The address to read at (`as_ptr`). -/
def readAddress (p : Pointer) : Except Refusal Address :=
  p.view.map fun v => v.address

/-- The address to write at (`as_mut_ptr`). -/
def writeAddress (p : Pointer) : Except Refusal Address :=
  match p.view with
  | .error refusal => .error refusal
  | .ok v => if v.readOnly then .error .readOnly else .ok v.address

/-- A pointer in running text (`Display`). -/
def text (p : Pointer) : String :=
  "<Void Pointer " ++ p.origin.decimal ++ (if p.isReleased then " (released)>" else ">")

/-- A pointer as a record (`Debug`). -/
def record (p : Pointer) : String :=
  Text.record "Pointer"
    [("address", p.origin.hex),
     ("view", Text.optional (p.exported.map fun v => v.view.record))]

end Pointer

/-- What a refusal to make a simple pointer adds for a caller whose memory has gaps. -/
def contiguityHint : String :=
  "; `ptr()` requires contiguous memory - pass a contiguous copy or use `nc_ptr()` if the " ++
    "foreign function supports strided memory"

/-- A refusal as the maker of a simple pointer words it (`ptr`). -/
def Failure.withHint : Failure → Failure
  | .refused (.incompatibleLayout contract problem) =>
    .refused (.incompatibleLayout contract (problem ++ contiguityHint))
  | failure => failure

namespace Store

/-- A pointer to a value's memory under a contract (`make_ptr`). -/
def pointerUnder (s : Store) (value : Value) (c : Contract) : Effect Pointer :=
  (s.acquire value c).map Pointer.ofView

/-- A pointer for reading memory without gaps in row-major order (`ptr`). -/
def simplePointer (s : Store) (value : Value) : Effect Pointer :=
  let made := s.pointerUnder value .simple
  { made with result := made.result.mapError Failure.withHint }

/-- A pointer for reading memory by its extents and strides (`nc_ptr`). -/
def stridedPointer (s : Store) (value : Value) : Effect Pointer :=
  s.pointerUnder value .stridedReadOnly

end Store
end MemoryLease
