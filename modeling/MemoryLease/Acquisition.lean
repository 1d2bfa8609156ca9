import MemoryLease.Lending
import MemoryLease.Negotiation

/-!
# Acquiring views

A view of a value is acquired under a contract: the contract is checked first, then the value is
asked whether it owns memory, then its source lends the memory, and last the region is held against
the contract.  What is lent and does not meet the contract goes back at once, so that a view and a
lease always go together.  This is `acquire`.
-/

namespace MemoryLease

/-- A value that a view can be asked of (`HostValue`). -/
inductive Value where
  /-- A value with memory to lend (`buffer_source`). -/
  | source (source : Source)
  /-- A value without. -/
  | plain (typeName : String)
deriving DecidableEq

/-- The memory that a value is a handle to, by its number. -/
def Value.memory? : Value → Option Nat
  | source handle => handle.memory?
  | plain _ => none

/-- A view, and what has to be returned for it (`ExportedView`). -/
structure ExportedView where
  /-- The negotiated description of the memory. -/
  view : MemoryView
  /-- What has to be returned. -/
  lease : Lease
deriving DecidableEq

/-- A view in somebody's hands as a record. -/
def ExportedView.record (v : ExportedView) : String :=
  Text.openRecord "ExportedView" [("view", v.view.record)]

namespace Store

/-- What is recorded of a region that does not meet a contract.  A source that lends what must not
be written for writing, or states what does not fit together, is to blame for it. -/
def rejection (r : Region) (c : Contract) (refusal : Refusal) : List Event :=
  (if refusal = .readOnly then [Event.readOnlyLent c]
    else r.inconsistency?.toList.map .inconsistentRegion) ++
  [.regionRejected r.length refusal]

/-- What is lent becomes a view, or goes back. -/
def settle (s : Store) (c : Contract) (g : Grant) : Effect ExportedView :=
  match g.region.negotiate c with
  | .ok view =>
    { store := s
      events := [.exported view.length view.address c]
      result := .ok ⟨view, g.lease⟩ }
  | .error refusal =>
    let back := s.giveBack g.lease
    { store := back.store
      events := rejection g.region c refusal ++ back.events
      result := match back.result with
        | .error failure => .error failure
        | .ok () => .error (.refused refusal) }

/-- A view of a value under a contract (`acquire`). -/
def acquire (s : Store) (value : Value) (c : Contract) : Effect ExportedView :=
  match c.flaw? with
  | some flaw =>
    let refusal := Refusal.invalidContract c flaw.text
    { store := s, events := [.contractRejected c refusal], result := .error (.refused refusal) }
  | none =>
    match value with
    | .plain typeName =>
      { store := s
        events := [.unsupported typeName]
        result := .error (.refused (.unsupportedSource typeName)) }
    | .source source =>
      let lent := s.lend c source
      match lent.result with
      | .error failure => { store := lent.store, events := lent.events, result := .error failure }
      | .ok g =>
        let settled := lent.store.settle c g
        { settled with events := lent.events ++ settled.events }

end Store
end MemoryLease
