import MemoryLease.Proofs.Lending.Acquiring

/-!
# What comes of asking for a view

A view is asked for, and what can happen is one of few things (`Store.Acquiring`): nobody is asked
or a memory refuses, and nothing changes; a foreign source is asked and lends nothing; a lease of a
memory is granted and lost, because its handle cannot state a region; a lease is granted, its region
does not meet the contract, and it goes back; or the view is acquired.  Nothing else happens
(`Store.acquiring`), since a lease that has just been granted can always go back.
-/

namespace MemoryLease
namespace Store

/-- What comes of asking a value for a view under a contract. -/
inductive Acquiring (s : Store) (c : Contract) : Value → Effect ExportedView → Prop
  /-- The contract contradicts itself, and nobody is asked. -/
  | invalid {v : Value} {flaw : Contract.Flaw} (flawed : c.flaw? = some flaw) :
      Acquiring s c v
        { store := s
          events := [.contractRejected c (.invalidContract c flaw.text)]
          result := .error (.refused (.invalidContract c flaw.text)) }
  /-- The value has no memory to lend. -/
  | unsupported {typeName : String} :
      Acquiring s c (.plain typeName)
        { store := s
          events := [.unsupported typeName]
          result := .error (.refused (.unsupportedSource typeName)) }
  /-- A memory refuses, or the handle to it does. -/
  | refused {source : Source} {id : Nat} {failure : Failure} (of : source.memory? = some id) :
      Acquiring s c (.source source) { store := s, result := .error failure }
  /-- A foreign source is asked, and refuses or describes no region. -/
  | declined {id : Nat} {failure : Failure} (valid : c.flaw? = none) :
      Acquiring s c (.source (.foreign id)) { store := s.ask id c, result := .error failure }
  /-- The lease of a memory is granted, and lost because the handle cannot state a region. -/
  | lost {source : Source} {id : Nat} {fault : Fault} (valid : c.flaw? = none)
      (of : source.memory? = some id) (grants : s.Grants c source (.memory id c.isWritable))
      (region : source.region s ((s.memory id).lent c.isWritable) = .error fault) :
      Acquiring s c (.source source)
        { store := (s.enter c (.memory id c.isWritable)).abandon (.memory id c.isWritable)
          events := s.entry (.memory id c.isWritable)
          result := .error (.faulted fault) }
  /-- The region does not meet the contract, and the lease goes back. -/
  | rejected {source : Source} {lease : Lease} {r : Region} {refusal : Refusal}
      (valid : c.flaw? = none) (grants : s.Grants c source lease)
      (region : source.region s (s.lentMemory lease) = .ok r)
      (agreed : r.negotiate c = .error refusal) :
      Acquiring s c (.source source)
        { store := (s.enter c lease).repay lease
          events := s.entry lease ++ (rejection r c refusal ++ (s.enter c lease).receipt lease)
          result := .error (.refused refusal) }
  /-- The view is acquired. -/
  | acquired {source : Source} {e : ExportedView} (acquires : s.Acquires c source e) :
      Acquiring s c (.source source)
        { store := s.enter c e.lease
          events := s.entry e.lease ++ [.exported e.view.length e.view.address c]
          result := .ok e }

variable {s : Store} {c : Contract}

/-- What is granted becomes a view, or goes back. -/
theorem acquiring_of_granted {source : Source} {lease : Lease} {r : Region}
    (valid : c.flaw? = none) (grants : s.Grants c source lease)
    (region : source.region s (s.lentMemory lease) = .ok r) (present : s.HasSource source) :
    let settled := (s.enter c lease).settle c ⟨r, lease⟩
    s.Acquiring c (.source source) { settled with events := s.entry lease ++ settled.events } := by
  have canRepay := grants.canRepay (grants.hasLease present)
  simp only [settle]
  cases agreed : r.negotiate c with
  | ok view => exact @Acquiring.acquired s c source ⟨view, lease⟩ ⟨valid, grants, r, region, agreed⟩
  | error refusal =>
    simp only [giveBack_of_canRepay canRepay]
    exact .rejected valid grants region agreed

/-- **What comes of asking for a view** is one of the listed outcomes. -/
theorem acquiring {v : Value} (present : ∀ source, v = .source source → s.HasSource source) :
    s.Acquiring c v (s.acquire v c) := by
  unfold acquire
  split
  · rename_i flaw flawed
    exact .invalid flawed
  · rename_i valid
    split
    · exact .unsupported
    · rename_i source
      have outcome := lending s c source
      generalize s.lend c source = lent at outcome
      cases outcome with
      | readOnly of => exact .refused of
      | refused of => exact .refused of
      | declined => exact .declined valid
      | lost of grants region => exact .lost valid of grants region
      | granted grants region =>
        exact acquiring_of_granted valid grants region (present source rfl)

end Store
end MemoryLease
