import MemoryLease.Proofs.Lending.Settling

/-!
# The ledger of a foreign source

A foreign source numbers the leases that it grants, in the order in which it grants them, and notes
the number of each lease that comes back.  What a call on a store does to it is told by three lists
(`Store.Deals`): the contracts under which it is asked, the numbers that it gives out, of which
there is at most one, and the numbers that come back.  A request for a view asks it at most once,
under a contract that does not contradict itself, and takes back what it has been granted if it
fails (`Store.Acquiring.deals`).
-/

namespace MemoryLease

/-! ### The leases of a foreign source -/

namespace Lease

/-- The number of a lease, if it is one of a given foreign source. -/
def ticket? (id : Nat) : Lease → Option Nat
  | memory _ _ => none
  | foreign source ticket => if source = id then some ticket else none

/-- The numbers of the leases of a foreign source among the given ones, in order. -/
def tickets (id : Nat) (ls : List Lease) : List Nat := ls.filterMap (ticket? id)

@[simp] theorem ticket?_memory (id other : Nat) (w : Bool) :
    ticket? id (memory other w) = none := rfl

@[simp] theorem ticket?_foreign_self (id ticket : Nat) :
    ticket? id (foreign id ticket) = some ticket := if_pos rfl

/-- The lease of another foreign source has no number here. -/
theorem ticket?_foreign_of_ne {id other : Nat} (h : other ≠ id) (ticket : Nat) :
    ticket? id (foreign other ticket) = none := if_neg h

/-- A lease has a number of a foreign source exactly if it is the lease of that number. -/
theorem ticket?_eq_some_iff {id ticket : Nat} {l : Lease} :
    l.ticket? id = some ticket ↔ l = foreign id ticket := by
  cases l with
  | memory => simp
  | foreign other number => simp [ticket?]

/-- The numbers of two lists of leases are those of the first, and then those of the second. -/
theorem tickets_append (id : Nat) (ls more : List Lease) :
    tickets id (ls ++ more) = tickets id ls ++ tickets id more := List.filterMap_append

/-- A number is listed as often as its lease is. -/
theorem count_tickets (id ticket : Nat) (ls : List Lease) :
    (tickets id ls).count ticket = ls.count (foreign id ticket) := by
  induction ls with
  | nil => rfl
  | cons l ls ih =>
    rw [tickets, List.filterMap_cons, List.count_cons, ← ih]
    cases hl : l.ticket? id with
    | none =>
      have hne : l ≠ foreign id ticket := fun h => by simp [ticket?_eq_some_iff.2 h] at hl
      simp [hne, tickets]
    | some number =>
      obtain rfl := ticket?_eq_some_iff.1 hl
      simp [List.count_cons, tickets]

/-- The numbers of a single lease. -/
theorem count_ticket? (id ticket : Nat) (l : Lease) :
    (l.ticket? id).toList.count ticket = [l].count (foreign id ticket) := by
  rw [← count_tickets, tickets, List.filterMap_cons]
  cases l.ticket? id <;> rfl

end Lease

/-- A foreign source as it is made: nobody has asked it. -/
structure ForeignSource.Fresh (f : ForeignSource) : Prop where
  seen : f.seen = []
  granted : f.granted = 0
  returned : f.returned = []

namespace Store

/-- A new foreign source leaves those that are there alone. -/
theorem foreign_addForeign_of_lt {s : Store} {id : Nat} (h : id < s.foreigns.length)
    (f : ForeignSource) : (s.addForeign f).foreign id = s.foreign id := by
  simp [foreign, addForeign, List.getElem?_append_left h]

/-- Nobody has dealt with a foreign source that is not there. -/
theorem foreign_of_length_le {s : Store} {id : Nat} (h : s.foreigns.length ≤ id) :
    s.foreign id = default := by
  simp [foreign, h]

/-! ### Dealings -/

/-- What happens to a foreign source between two states of the store. -/
structure Deals (s s' : Store) (id : Nat) (asked : List Contract) (given back : List Nat) :
    Prop where
  seen : (s'.foreign id).seen = (s.foreign id).seen ++ asked
  next : given = [] ∨ given = [(s.foreign id).granted]
  granted : (s'.foreign id).granted = (s.foreign id).granted + given.length
  returned : (s'.foreign id).returned = (s.foreign id).returned ++ back

variable {s s₁ s₂ : Store} {c : Contract} {source : Source} {l : Lease} {id : Nat}
  {asked : List Contract} {given back : List Nat}

/-- The numbers of the leases that a foreign source has granted. -/
theorem Deals.range_granted (h : s.Deals s₁ id asked given back) :
    List.range (s₁.foreign id).granted = List.range (s.foreign id).granted ++ given := by
  rw [h.granted]
  rcases h.next with rfl | rfl
  · rw [List.append_nil]
    rfl
  · exact List.range_succ

/-- Nobody deals with a foreign source that has the same ledger as before. -/
theorem deals_of_eq (seen : (s₁.foreign id).seen = (s.foreign id).seen)
    (granted : (s₁.foreign id).granted = (s.foreign id).granted)
    (returned : (s₁.foreign id).returned = (s.foreign id).returned) : s.Deals s₁ id [] [] [] :=
  ⟨by rw [seen, List.append_nil], .inl rfl, granted, by rw [returned, List.append_nil]⟩

/-- A store that stays as it is has dealt with nobody. -/
theorem deals_refl (s : Store) (id : Nat) : s.Deals s id [] [] [] := deals_of_eq rfl rfl rfl

/-- What is lent goes back after it has been lent. -/
theorem Deals.trans (h : s.Deals s₁ id asked given []) (h' : s₁.Deals s₂ id [] [] back) :
    s.Deals s₂ id asked given back where
  seen := by rw [h'.seen, h.seen, List.append_nil]
  next := h.next
  granted := h'.granted.trans h.granted
  returned := by rw [h'.returned, h.returned, List.append_nil]

/-- A lease that is lost is no business of the source any more. -/
theorem Deals.abandon (h : s.Deals s₁ id asked given back) (l : Lease) :
    s.Deals (s₁.abandon l) id asked given back :=
  ⟨h.seen, h.next, h.granted, h.returned⟩

/-- That memories are freed is no business of a foreign source. -/
theorem Deals.free (h : s.Deals s₁ id asked given back) (freed : List Nat) :
    s.Deals { s₁ with freed } id asked given back :=
  ⟨h.seen, h.next, h.granted, h.returned⟩

/-- Asking one foreign source is asking that one once, and no other. -/
theorem ask_deals {other : Nat} (present : s.HasSource (.foreign other)) (c : Contract) (id : Nat) :
    ∃ asked, s.Deals (s.ask other c) id asked [] [] ∧ (asked = [] ∨ asked = [c]) := by
  by_cases e : other = id
  · subst e
    refine ⟨[c], ?_, .inr rfl⟩
    constructor <;> simp [ask, foreign_setForeign_self present]
  · refine ⟨[], ?_, .inl rfl⟩
    rw [ask]
    constructor <;> simp [foreign_setForeign_of_ne e]

/-- A foreign source that grants a lease gives it the next number. -/
theorem Grants.deals (grants : s.Grants c source l) (present : s.HasSource source) (id : Nat) :
    ∃ asked, s.Deals (s.enter c l) id asked (l.ticket? id).toList [] ∧
      (asked = [] ∨ asked = [c]) := by
  cases grants with
  | owned => exact ⟨[], deals_of_eq rfl rfl rfl, .inl rfl⟩
  | @foreign other willing =>
    by_cases e : other = id
    · subst e
      refine ⟨[c], ?_, .inr rfl⟩
      constructor <;> simp [enter, foreign_setForeign_self present]
    · refine ⟨[], ?_, .inl rfl⟩
      rw [enter, Lease.ticket?_foreign_of_ne e]
      constructor <;> simp [foreign_setForeign_of_ne e]

/-- A foreign source notes the number of a lease that comes back. -/
theorem repay_deals (present : ∀ ticket, l = .foreign id ticket → id < s.foreigns.length) :
    s.Deals (s.repay l) id [] [] (l.ticket? id).toList := by
  cases l with
  | memory => exact deals_of_eq rfl rfl rfl
  | foreign other ticket =>
    by_cases e : other = id
    · subst e
      have hl := present ticket rfl
      constructor <;> simp [repay, foreign_setForeign_self hl]
    · rw [repay, Lease.ticket?_foreign_of_ne e]
      constructor <;> simp [foreign_setForeign_of_ne e]

/-- What a foreign source grants is a lease of one that is there. -/
theorem Grants.foreign_lt (grants : s.Grants c source l) (present : s.HasSource source)
    {ticket : Nat} (hl : l = .foreign id ticket) : id < s.foreigns.length := by
  cases grants with
  | owned => cases hl
  | foreign willing =>
    cases hl
    exact present

/-- A lease that is granted and goes back at once. -/
theorem Grants.repay_deals (grants : s.Grants c source l) (present : s.HasSource source)
    (id : Nat) : ∃ asked, s.Deals ((s.enter c l).repay l) id asked (l.ticket? id).toList
      (l.ticket? id).toList ∧ (asked = [] ∨ asked = [c]) := by
  obtain ⟨asked, entered, only⟩ := grants.deals present id
  refine ⟨asked, entered.trans (Store.repay_deals fun ticket hl => ?_), only⟩
  subst hl
  have there := grants.foreign_lt present rfl
  simpa [enter, setForeign] using there

/-- **What a request for a view does to a foreign source.**  It is asked under the contract of the
request and no more than once, if at all, and then the contract does not contradict itself.  A
request that fails gives back exactly what it has been granted. -/
theorem Acquiring.deals {v : Value} {made : Effect ExportedView} (outcome : s.Acquiring c v made)
    (present : ∀ source, v = .source source → s.HasSource source) (id : Nat) :
    ∃ asked given back, s.Deals made.store id asked given back ∧
      (asked = [] ∨ asked = [c] ∧ c.flaw? = none) ∧
      ∀ failure, made.result = .error failure → back = given := by
  have unasked : ∀ result : Except Failure ExportedView, ∃ asked given back,
      s.Deals s id asked given back ∧ (asked = [] ∨ asked = [c] ∧ c.flaw? = none) ∧
      ∀ failure, result = .error failure → back = given :=
    fun _ => ⟨[], [], [], deals_refl s id, .inl rfl, fun _ _ => rfl⟩
  cases outcome with
  | invalid => exact unasked _
  | unsupported => exact unasked _
  | refused => exact unasked _
  | declined valid =>
    obtain ⟨asked, deals, only⟩ := ask_deals (present _ rfl) c id
    exact ⟨asked, [], [], deals, only.imp_right fun h => ⟨h, valid⟩, fun _ _ => rfl⟩
  | lost valid of grants =>
    obtain ⟨asked, deals, only⟩ := grants.deals (present _ rfl) id
    exact ⟨asked, [], [], deals.abandon _, only.imp_right fun h => ⟨h, valid⟩, fun _ _ => rfl⟩
  | rejected valid grants =>
    obtain ⟨asked, deals, only⟩ := grants.repay_deals (present _ rfl) id
    exact ⟨asked, _, _, deals, only.imp_right fun h => ⟨h, valid⟩, fun _ _ => rfl⟩
  | acquired acquires =>
    obtain ⟨asked, deals, only⟩ := acquires.grants.deals (present _ rfl) id
    refine ⟨asked, _, _, deals, only.imp_right fun h => ⟨h, acquires.valid⟩,
      fun failure failed => ?_⟩
    cases failed

end Store
end MemoryLease
