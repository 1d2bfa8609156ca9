import MemoryLease.Buffer
import MemoryLease.Effect
import MemoryLease.Tensor.Basic

/-!
# Lending memory

A source that is asked for its memory under a contract states the region and hands out a lease for
it, or it refuses.  A source that owns its memory first enters the lease into the account of the
memory; a fault after that leaves a lease that nobody holds.  A lease is returned to the source
that handed it out.  As long as one is out, the memory neither moves nor changes its size.

Lending is `export`, of a buffer, of a tensor and of a foreign source; giving back is
`ExportLease.release`.
-/

namespace MemoryLease

/-- A handle to a source of memory (`BufferSource`). -/
inductive Source where
  | buffer (buffer : Buffer)
  | tensor (tensor : Tensor)
  /-- A foreign source, by its number. -/
  | foreign (id : Nat)
deriving DecidableEq

/-- The memory that a source is a handle to, by its number. -/
def Source.memory? : Source → Option Nat
  | buffer b => some b.memory
  | tensor t => some t.memory
  | foreign _ => none

/-- What a source hands out (`Export`). -/
structure Grant where
  /-- The full layout of what is lent. -/
  region : Region
  /-- What has to be returned. -/
  lease : Lease
deriving DecidableEq

/-- What is lent, as a record. -/
def Grant.record (g : Grant) : String :=
  Text.openRecord "Export" [("layout", g.region.record)]

namespace Store

/-- A memory is lent through a handle to it, which states the region. -/
def lendMemory (s : Store) (id : Nat) (readOnly : Bool) (region : Memory → Except Fault Region)
    (c : Contract) : Effect Grant :=
  if c.isWritable && readOnly then { store := s, result := .error (.refused .readOnly) }
  else
    let m := s.memory id
    match m.register c.isWritable with
    | .error failure => { store := s, result := .error failure }
    | .ok m' =>
      let lease := Lease.memory id c.isWritable
      let events := [Event.registered id c.isWritable m.size (m.base id)]
      let s := s.setMemory id m'
      match region m' with
      | .error fault => { store := s.abandon lease, events, result := .error (.faulted fault) }
      | .ok r => { store := s, events, result := .ok ⟨r, lease⟩ }

/-- A foreign source notes the contract, and then lends what it describes unless it refuses. -/
def lendForeign (s : Store) (id : Nat) (c : Contract) : Effect Grant :=
  let f := s.foreign id
  let asked := { f with seen := f.seen ++ [c] }
  match f.refusal with
  | some refusal => { store := s.setForeign id asked, result := .error (.refused refusal) }
  | none =>
    match f.description.region with
    | .error fault => { store := s.setForeign id asked, result := .error (.faulted fault) }
    | .ok r =>
      { store := s.setForeign id { asked with granted := f.granted + 1 }
        result := .ok ⟨r, .foreign id f.granted⟩ }

/-- A source is asked for its memory under a contract. -/
def lend (s : Store) (c : Contract) : Source → Effect Grant
  | .buffer b => s.lendMemory b.memory b.readOnly b.region c
  | .tensor t => s.lendMemory t.memory t.readOnly t.region c
  | .foreign id => s.lendForeign id c

/-- A lease is returned (`ExportLease.release`). -/
def giveBack (s : Store) : Lease → Effect Unit
  | .memory id writable =>
    match (s.memory id).release writable with
    | .error fault => { store := s, result := .error (.faulted fault) }
    | .ok m =>
      { store := s.setMemory id m
        events := [.released id writable m.outstanding]
        result := .ok () }
  | .foreign id ticket =>
    let f := s.foreign id
    { store := s.setForeign id { f with returned := f.returned ++ [ticket] }, result := .ok () }

/-- A buffer is resized (`ByteBuffer.resize`). -/
def resize (s : Store) (b : Buffer) (size : Nat) : Effect Unit :=
  let (m, result) := b.resize (s.memory b.memory) size
  { store := s.setMemory b.memory m
    events := match result with
      | .error (.refused (.bufferExported outstanding)) => [.resizeRefused size outstanding]
      | _ => []
    result }

end Store
end MemoryLease
