import MemoryLease.Proofs.Lending.Foreign
import MemoryLease.Proofs.Session.Entries
import MemoryLease.Session.Run

/-!
# What a step can do to a session

A step is a long way from its name to the store, but it ends in one of few things (`Move`): nothing
changes, a value is made or derived, bytes are written, a block is resized or its lock poisoned, a
foreign source changes, or a lease is lost, taken, rejected or given back.  Each case carries all
that has to hold for it.  That every step of a session whose accounts are in order is one of them is
proved in `MemoryLease.Proofs.Session.Steps`; what a step keeps is then proved case by case,
without looking at a step again.
-/

namespace MemoryLease

/-! ### Leases in the record -/

namespace Event

/-- The lease that an event enters into an account. -/
def entered? : Event → Option Lease
  | registered id writable _ _ => some (.memory id writable)
  | _ => none

/-- The lease that an event strikes out of an account. -/
def returned? : Event → Option Lease
  | released id writable _ => some (.memory id writable)
  | _ => none

/-- The leases that have been entered, in order. -/
def entered (events : List Event) : List Lease := events.filterMap entered?

/-- The leases that have been struck out, in order. -/
def returned (events : List Event) : List Lease := events.filterMap returned?

/-- No lease is entered or struck out. -/
def Quiet (events : List Event) : Prop := entered events = [] ∧ returned events = []

/-- Nothing recorded is no lease recorded. -/
theorem quiet_nil : Quiet [] := ⟨rfl, rfl⟩

/-- The leases entered in two records are those of the first, and then those of the second. -/
@[simp] theorem entered_append (es fs : List Event) :
    entered (es ++ fs) = entered es ++ entered fs := List.filterMap_append

/-- The leases struck out in two records are those of the first, and then those of the second. -/
@[simp] theorem returned_append (es fs : List Event) :
    returned (es ++ fs) = returned es ++ returned fs := List.filterMap_append

end Event

namespace Store

/-- The store after a lease, if there is one, has been struck out. -/
def repay? (s : Store) : Option Lease → Store
  | some lease => s.repay lease
  | none => s

/-- What is recorded of striking out a lease, if there is one. -/
def receipt? (s : Store) : Option Lease → List Event
  | some lease => s.receipt lease
  | none => []

end Store

namespace Session

/-! ### Pointers, views and requests -/

/-- The view that a pointer or a view has not given back. -/
def Hold.exported? : Hold → Option ExportedView
  | pointer p => p.exported
  | view v => some v

/-- What has to be returned is the lease of the view that has not been given back. -/
theorem Hold.lease?_eq (h : Hold) : h.lease? = h.exported?.map ExportedView.lease := by
  cases h <;> rfl

/-- What holds a view of a memory has the lease of it to return. -/
theorem Hold.lease?_of_exported? {h : Hold} {e : ExportedView} {l : Lease}
    (he : h.exported? = some e) (lease : e.lease = l) : h.lease? = some l := by
  rw [Hold.lease?_eq, he, Option.map_some, lease]

/-- Whoever holds a view of a memory holds that memory. -/
theorem Hold.memory?_of_exported? {h : Hold} {e : ExportedView} {id : Nat} {w : Bool}
    (he : h.exported? = some e) (lease : e.lease = .memory id w) : h.memory? = some id := by
  rw [Hold.memory?, Hold.lease?_of_exported? he lease]
  rfl

/-- Whoever holds a view shows it. -/
theorem Hold.shown_of_exported? {h : Hold} {v : ExportedView} (hv : h.exported? = some v) :
    h.shown = .ok v.view := by
  cases h with
  | pointer p =>
    have held : p.exported = some v := hv
    simp only [shown, Pointer.view, held]
  | view e =>
    obtain rfl := Option.some.inj hv
    rfl

/-- The contract that a request is made under. -/
def Request.contract : Request → Contract
  | simplePointer => .simple
  | stridedPointer => .stridedReadOnly
  | pointerUnder c | viewUnder c => c

/-- What a request makes of a view. -/
def Request.holding (v : ExportedView) : Request → Hold
  | simplePointer | stridedPointer | pointerUnder _ => .pointer (.ofView v)
  | viewUnder _ => .view v

@[simp] theorem Request.exported?_holding (v : ExportedView) (request : Request) :
    (request.holding v).exported? = some v := by
  cases request <;> rfl

@[simp] theorem Request.lease?_holding (v : ExportedView) (request : Request) :
    (request.holding v).lease? = some v.lease := by
  cases request <;> rfl

@[simp] theorem shown_holding (request : Request) (e : ExportedView) :
    (request.holding e).shown = .ok e.view :=
  Hold.shown_of_exported? (request.exported?_holding e)

/-- A value is made, and the store gets what it needs. -/
inductive Made (s : Store) : Store → Value → Prop
  | buffer {m : Memory} {readOnly : Bool} (fresh : m.Fresh) :
      Made s (s.addMemory m) (.source (.buffer ⟨s.memories.length, readOnly⟩))
  | tensor {m : Memory} {t : Tensor} (fresh : m.Fresh) (within : t.memory = s.memories.length)
      (fits : t.Fits m) (counted : Shape.Counted t.shape) :
      Made s (s.addMemory m) (.source (.tensor t))
  | foreign {f : ForeignSource} (fresh : f.Fresh) :
      Made s (s.addForeign f) (.source (.foreign s.foreigns.length))
  | plain {typeName : String} : Made s s (.plain typeName)

/-- A step asks a source for its memory under a contract, through the source itself or through the
negotiation of a view. -/
inductive Asks (s : Session) : Step → Source → Contract → Prop
  | lend {name : String} {source : Source} {c : Contract}
      (of : s.value? name = some (.source source)) : Asks s (.call name (.lend c)) source c
  | acquire {name origin : String} {source : Source} {request : Request}
      (of : s.value? origin = some (.source source)) (valid : request.contract.flaw? = none) :
      Asks s (.acquire name origin request) source request.contract

/-- A step makes a further handle from another one. -/
inductive Derives : Step → String → String → Derivation → Prop
  | derive {name origin : String} {derivation : Derivation} :
      Derives (.derive name origin derivation) name origin derivation
  | clone {name origin : String} : Derives (.clone name origin) name origin .same

/-- The item that foreign code writes, its type and its offset. -/
def Usage.poked? : Usage → Option (ItemType × Nat × Int)
  | poke item offset value | pokeBase item offset value => some (item, offset, value)
  | _ => none

/-- A step writes bytes to a memory at an offset, if they all lie within it. -/
inductive Writes (s : Session) : Step → Nat → Nat → List UInt8 → Prop
  | buffer {name : String} {b : Buffer} {offset : Nat} {data : List UInt8}
      (of : s.value? name = some (.source (.buffer b))) (access : b.readOnly = false)
      (unpoisoned : (s.store.memory b.memory).poisoned = false) :
      Writes s (.call name (.write offset data)) b.memory offset data
  | tensor {name : String} {t : Tensor} {index : List Nat} {value : Int} {offset : Nat}
      (of : s.value? name = some (.source (.tensor t))) (access : t.readOnly = false)
      (unpoisoned : (s.store.memory t.memory).poisoned = false)
      (place : t.place index = .ok offset) :
      Writes s (.call name (.set index value)) t.memory offset
        ((s.store.memory t.memory).item.encode value)
  | held {name : String} {usage : Usage} {h : Hold} {e : ExportedView} {id : Nat} {w : Bool}
      {item : ItemType} {offset : Nat} {value : Int} (of : s.hold? name = some h)
      (exported : h.exported? = some e) (access : e.view.readOnly = false)
      (lease : e.lease = .memory id w) (pokes : usage.poked? = some (item, offset, value)) :
      Writes s (.use name usage) id offset (item.encode value)

/-! ### Moves -/

/-- The session in which a memory has another state. -/
def withMemory (s : Session) (id : Nat) (m : Memory) : Session :=
  { s with store := s.store.setMemory id m }

/-- What a step can do: the step, what it records, and the session it leaves. -/
inductive Move (s : Session) : Step → List Event → Session → Prop
  /-- Nothing changes. -/
  | rest {t : Step} {events : List Event} (quiet : Event.Quiet events) : Move s t events s
  /-- A value is made. -/
  | create {name : String} {creation : Creation} {store : Store} {v : Value}
      (untaken : s.isTaken name = false) (made : Made s.store store v) :
      Move s (.create name creation) [] ({ s with store }.addValue name v)
  /-- A further handle is made. -/
  | derive {t : Step} {name origin : String} {derivation : Derivation} {handle derived : Source}
      (derives : Derives t name origin derivation) (untaken : s.isTaken name = false)
      (of : s.value? origin = some (.source handle))
      (made : derivation.source? handle = some (.ok derived)) :
      Move s t [] (s.addValue name (.source derived))
  /-- Bytes are written. -/
  | write {t : Step} {id offset : Nat} {data : List UInt8} {block : Block}
      (writes : Writes s t id offset data)
      (fits : (s.store.memory id).block.splice? offset data = some block) :
      Move s t [] (s.withMemory id { s.store.memory id with block })
  /-- The block of a buffer gets a new size. -/
  | resize {name : String} {b : Buffer} {size : Nat} {block : Block}
      (of : s.value? name = some (.source (.buffer b))) (access : b.readOnly = false)
      (unpoisoned : (s.store.memory b.memory).poisoned = false)
      (free : (s.store.memory b.memory).outstanding = 0)
      (fits : size ≤ Memory.allocationMax (s.store.memory b.memory).item)
      (fitted : block.toList =
        ((s.store.memory b.memory).block.fitted size (Memory.le_sizeMax_of_fits fits)).toList) :
      Move s (.call name (.resize size)) []
        (s.withMemory b.memory
          { s.store.memory b.memory with block, moves := (s.store.memory b.memory).moves + 1 })
  /-- The block of a buffer should get a size that no allocation can have. -/
  | poison {name : String} {b : Buffer} {size : Nat}
      (of : s.value? name = some (.source (.buffer b))) (access : b.readOnly = false)
      (unpoisoned : (s.store.memory b.memory).poisoned = false)
      (free : (s.store.memory b.memory).outstanding = 0)
      (excess : Memory.allocationMax (s.store.memory b.memory).item < size) :
      Move s (.call name (.resize size)) []
        (s.withMemory b.memory { s.store.memory b.memory with poisoned := true })
  /-- A foreign source will lend something else. -/
  | redescribe {name : String} {id : Nat} {description : Region.Description}
      {refusal : Option Refusal} (of : s.value? name = some (.source (.foreign id))) :
      Move s (.call name (.redescribe description refusal)) []
        { s with store := s.store.setForeign id { s.store.foreign id with description, refusal } }
  /-- A foreign source is asked and lends nothing. -/
  | ask {t : Step} {id : Nat} {c : Contract} (asks : Asks s t (.foreign id) c) :
      Move s t [] { s with store := s.store.ask id c }
  /-- A lease is granted that nobody keeps. -/
  | lose {t : Step} {source : Source} {c : Contract} {lease : Lease} (asks : Asks s t source c)
      (grants : s.store.Grants c source lease) :
      Move s t (s.store.entry lease)
        { s with store := (s.store.enter c lease).abandon lease }
  /-- A view is acquired. -/
  | take {name origin : String} {request : Request} {source : Source} {e : ExportedView}
      (untaken : s.isTaken name = false) (of : s.value? origin = some (.source source))
      (acquires : s.store.Acquires request.contract source e) :
      Move s (.acquire name origin request)
        (s.store.entry e.lease ++ [.exported e.view.length e.view.address request.contract])
        ({ s with store := s.store.enter request.contract e.lease }.addHold name
          (request.holding e))
  /-- A region does not meet the contract, and its lease goes back. -/
  | reject {name origin : String} {request : Request} {source : Source} {lease : Lease}
      {r : Region} {refusal : Refusal}
      (of : s.value? origin = some (.source source)) (valid : request.contract.flaw? = none)
      (grants : s.store.Grants request.contract source lease)
      (region : source.region s.store (s.store.lentMemory lease) = .ok r)
      (agreed : r.negotiate request.contract = .error refusal) :
      Move s (.acquire name origin request)
        (s.store.entry lease ++ (Store.rejection r request.contract refusal ++
          (s.store.enter request.contract lease).receipt lease))
        { s with store := (s.store.enter request.contract lease).repay lease }
  /-- A pointer gives its view back, and stays. -/
  | release {name : String} {p : Pointer} (of : s.hold? name = some (.pointer p)) :
      Move s (.use name .release) (s.store.receipt? (Hold.pointer p).lease?)
        (({ s with store := s.store.repay? (Hold.pointer p).lease? }.setHold name
          (.pointer ⟨p.origin, none⟩)).letGo (Hold.pointer p).memory?)
  /-- A pointer or a view gives back what it holds, and goes. -/
  | consume {t : Step} {name : String} {h : Hold} (of : s.hold? name = some h)
      (lets : t = .drop name ∨ t = .use name .release) :
      Move s t (s.store.receipt? h.lease?)
        (({ s with store := s.store.repay? h.lease? }.forget name).letGo h.memory?)
  /-- The name of a value goes. -/
  | forget {name : String} {v : Value} (of : s.value? name = some v)
      (unheld : s.hold? name = none) : Move s (.drop name) [] ((s.forget name).letGo v.memory?)

end Session
end MemoryLease
