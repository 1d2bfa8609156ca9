import MemoryLease.Session.Basic
import MemoryLease.Session.Step
import MemoryLease.Tensor.Items

/-!
# The values of a session

Values are made, further handles are made from them, and they are called.  What is made or derived
is asked what it is before it gets its name, and a value that cannot tell gets none.  A clone is not
asked, so there is one even of a buffer whose lock is poisoned.
-/

namespace MemoryLease
namespace Session

/-! ### Making values -/

/-- What a value tells of itself. -/
def info (s : Store) : Value → Except Fault Info
  | .source (.buffer b) => (s.memory b.memory).length.map fun length => .buffer length b.readOnly
  | .source (.tensor t) =>
    let item := (s.memory t.memory).item
    .ok (.tensor t.shape t.strides t.readOnly t.length t.isEmpty
      (t.isContiguous item .rowMajor) (t.isContiguous item .columnMajor))
  | .source (.foreign id) => .ok (.foreign (s.foreign id).seen)
  | .plain typeName => .ok (.plain typeName)

/-- A new memory of bytes and a buffer for it. -/
def newBuffer (s : Store) (readOnly : Bool) (m : Memory) : Store × Value :=
  (s.addMemory m, .source (.buffer ⟨s.memories.length, readOnly⟩))

/-- A new memory and the tensor that lies in it. -/
def newTensor (s : Store) (made : Memory × Tensor) : Store × Value :=
  (s.addMemory made.1, .source (.tensor made.2))

/-- A value that is to be made, and the store with what it needs. -/
def Creation.value (s : Store) : Creation → Except Fault (Store × Value)
  | .bytes data => (Memory.ofBytes .uint8 data).map (newBuffer s false)
  | .zeroed length => (Memory.zeroed .uint8 length).map (newBuffer s false)
  | .frozen data => (Memory.ofBytes .uint8 data).map (newBuffer s true)
  | .zeros item shape order =>
    (Tensor.zeros s.memories.length item shape order).map (newTensor s)
  | .items item values shape order =>
    (Tensor.ofItems s.memories.length item values shape order).map (newTensor s)
  | .foreign description refusal =>
    .ok (s.addForeign { description, refusal }, .source (.foreign s.foreigns.length))
  | .plain typeName => .ok (s, .plain typeName)

/-- A value gets a name and tells what it is.  A value that cannot tell gets none. -/
def introduce (s : Session) (name : String) (store : Store) (v : Value) : Turn :=
  match info store v with
  | .error fault => s.replying (.failed (.faulted fault))
  | .ok info => ({ s with store }.addValue name v).replying (.answer (.info info))

/-- A value is made. -/
def create (s : Session) (name : String) (creation : Creation) : Turn :=
  match creation.value s.store with
  | .error fault => s.replying (.failed (.faulted fault))
  | .ok (store, v) => s.introduce name store v

/-- A further handle, if the handle it is made from has such. -/
def Derivation.source? : Derivation → Source → Option (Except Fault Source)
  | .same, .buffer b => some (.ok (.buffer b))
  | .same, .tensor t => some (.ok (.tensor t))
  | .step axis every, .tensor t => some ((t.step axis every).map .tensor)
  | .transpose, .tensor t => some (.ok (.tensor t.transpose))
  | .readOnly, .tensor t => some (.ok (.tensor t.asReadOnly))
  | _, _ => none

/-- A further handle to the memory of a value is made. -/
def derive (s : Session) (name source : String) (derivation : Derivation) : Turn :=
  match s.value? source with
  | some (.source handle) =>
    match derivation.source? handle with
    | none => s.replying .invalid
    | some (.error fault) => s.replying (.failed (.faulted fault))
    | some (.ok derived) => s.introduce name s.store (.source derived)
  | _ => s.replying .invalid

/-- The same handle gets another name.  Nobody looks at the memory (`Clone`). -/
def clone (s : Session) (name source : String) : Turn :=
  match s.value? source with
  | some (.source handle) =>
    match Derivation.same.source? handle with
    | some (.ok same) => (s.addValue name (.source same)).replying (.answer .done)
    | _ => s.replying .invalid
  | _ => s.replying .invalid

/-! ### Calling values -/

/-- The turn of a call that leaves a memory in some state, and goes well or fails. -/
def writing (s : Session) (id : Nat) (called : Memory × Except Failure Unit) : Turn :=
  { s with store := s.store.setMemory id called.1 }.replying (.of (called.2.map fun _ => .done))

/-- What a source lends when nobody keeps the lease (`export`, and what it returns is dropped). -/
def lendToNobody (s : Store) (c : Contract) (source : Source) : Effect Grant :=
  let lent := s.lend c source
  match lent.result with
  | .error _ => lent
  | .ok g => { lent with store := lent.store.abandon g.lease }

/-- A buffer is called. -/
def callBuffer (s : Session) (b : Buffer) : Call → Turn
  | .contents =>
    s.replying (.unlessFaulted ((s.store.memory b.memory).contents.map .bytes))
  | .write offset data => s.writing b.memory (b.write (s.store.memory b.memory) offset data)
  | .resize size => s.carriedOut (s.store.resize b size) fun _ => .done
  | _ => s.replying .invalid

/-- A tensor is called. -/
def callTensor (s : Session) (t : Tensor) : Call → Turn
  | .contents =>
    let m := s.store.memory t.memory
    s.replying (.unlessFaulted ((t.toList m).map (.items m.item)))
  | .get index =>
    let m := s.store.memory t.memory
    s.replying (.unlessFaulted ((t.get m index).map (.item m.item)))
  | .set index value => s.writing t.memory (t.set (s.store.memory t.memory) index value)
  | .record => s.replying (.answer (.text (t.record (s.store.memory t.memory).item)))
  | _ => s.replying .invalid

/-- A foreign source is called. -/
def callForeign (s : Session) (id : Nat) : Call → Turn
  | .redescribe description refusal =>
    let f := { s.store.foreign id with description, refusal }
    { s with store := s.store.setForeign id f }.replying (.answer .done)
  | _ => s.replying .invalid

/-- A value is called. -/
def call (s : Session) (name : String) (c : Call) : Turn :=
  match s.value? name with
  | none => s.replying .invalid
  | some v =>
    match c, v with
    | .info, v => s.replying (.unlessFaulted ((info s.store v).map .info))
    | .lend contract, .source source =>
      s.carriedOut (lendToNobody s.store contract source) fun g => .text g.record
    | c, .source (.buffer b) => s.callBuffer b c
    | c, .source (.tensor t) => s.callTensor t c
    | c, .source (.foreign id) => s.callForeign id c
    | _, .plain _ => s.replying .invalid

end Session
end MemoryLease
