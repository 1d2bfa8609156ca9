import MemoryLease.Memory
import MemoryLease.Region

/-!
# Buffers

A buffer is a handle to a memory of bytes.  All handles to one memory see the same bytes and the
same account of views.  A frozen handle refuses to write and to resize, before it looks at the
memory at all.
-/

namespace MemoryLease

/-- A handle to a memory of bytes. -/
structure Buffer where
  /-- The memory, by its number. -/
  memory : Nat
  /-- Whether the handle is frozen. -/
  readOnly : Bool
deriving DecidableEq

namespace Buffer

/-- The memory after an attempt to write bytes from an offset on, and how that went
(`ByteBuffer.write`). -/
def write (b : Buffer) (m : Memory) (offset : Nat) (data : List UInt8) :
    Memory × Except Failure Unit :=
  if b.readOnly then (m, .error (.refused .readOnly))
  else
    let (m, result) := m.write offset data
    (m, result.mapError .faulted)

/-- The memory after an attempt to resize it, and how that went (`ByteBuffer.resize`). -/
def resize (b : Buffer) (m : Memory) (size : Nat) : Memory × Except Failure Unit :=
  if b.readOnly then (m, .error (.refused .readOnly)) else m.resize size

/-- The region that a buffer states when it lends its memory (`ByteBuffer.export`). -/
def region (b : Buffer) (m : Memory) : Except Fault Region :=
  match m.length with
  | .error fault => .error fault
  | .ok length =>
    (Region.ofBytes (m.base b.memory) length).map fun r => { r with readOnly := b.readOnly }

end Buffer
end MemoryLease
