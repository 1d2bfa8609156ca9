import MemoryLease.Proofs.Session.Steps

/-!
# Poisoned locks

To give a lease back, the lock of its memory is taken and one view less is counted.  Both could
fault: on a lock that is poisoned, and on a count that is zero.  In a session neither happens
(`poisoned_lock_without_views`).  A lock is poisoned only by a resize while no view is outstanding,
it stays so (`Move.poisoned`), and a memory with a poisoned lock lends nothing; so no lease of it is
there to be given back.  Its handles can still be cloned, since a clone takes no lock
(`clone_turn`).
-/

namespace MemoryLease
namespace Session

variable {s s' : Session} {t : Step} {es : List Event} {name origin : String} {h : Hold} {id : Nat}

/-- **A poisoned lock stays poisoned.** -/
theorem Move.poisoned (m : Move s t es s') (hp : (s.store.memory id).poisoned = true) :
    (s'.store.memory id).poisoned = true := by
  rcases m.memory_cases id with hi | ⟨rfl, -⟩ | ⟨origin, b, -, -, resized⟩
  · exact hi.poisoned.trans hp
  · rw [Store.memory_of_length_le (Nat.le_refl _)] at hp
    exact absurd hp Bool.false_ne_true
  · rw [resized.unpoisoned] at hp
    exact absurd hp Bool.false_ne_true

/-- A lock that is poisoned is so for good. -/
theorem after_poisoned (hs : s.Sound) (hp : (s.store.memory id).poisoned = true)
    (steps : List Step) : ((s.after steps).store.memory id).poisoned = true :=
  after_keeps (P := fun s => (s.store.memory id).poisoned = true) (fun m _ hp => m.poisoned hp)
    hs hp steps

namespace Sound

/-- No lease of a memory with a poisoned lock is still to be returned. -/
theorem not_mem_unreturned (hs : s.Sound) (hp : (s.store.memory id).poisoned = true) (w : Bool) :
    Lease.memory id w ∉ s.unreturned := by
  intro hm
  have hc := (hs.canRepay hm).1
  rw [hp] at hc
  exact absurd hc.symm Bool.false_ne_true

/-- A memory with a poisoned lock counts no view. -/
theorem outstanding_eq_zero (hs : s.Sound) (hp : (s.store.memory id).poisoned = true) :
    (s.store.memory id).outstanding = 0 := by
  have reading := hs.unpoisoned id hp false
  have writing := hs.unpoisoned id hp true
  rw [Memory.outstanding_eq, reading, writing]

/-- The count that a lease is struck out of is not zero, and the lock that is taken for it is not
poisoned. -/
theorem release_eq (hs : s.Sound) {w : Bool} (hl : Lease.memory id w ∈ s.unreturned) :
    0 < (s.store.memory id).views w ∧
      (s.store.memory id).release w = .ok ((s.store.memory id).repaid w) := by
  obtain ⟨unpoisoned, counted⟩ := hs.canRepay hl
  exact ⟨counted, Memory.release_of_pos unpoisoned counted⟩

/-- What a source of the session has just lent can go back. -/
theorem giveBack_of_lend (hs : s.Sound) {source : Source} {c : Contract} {g : Grant}
    (of : s.value? name = some (.source source)) (lent : (s.store.lend c source).result = .ok g) :
    ((s.store.lend c source).store.giveBack g.lease).result = .ok () := by
  have outcome := Store.lending s.store c source
  generalize s.store.lend c source = e at outcome lent
  cases outcome with
  | granted grants =>
    obtain rfl := Except.ok.inj lent
    have canRepay := grants.canRepay (grants.hasLease (hs.hasSource of))
    rw [Store.giveBack_of_canRepay canRepay]
  | _ => cases lent

/-! ### Letting go of pointers and views -/

/-- Releasing what is held never fails. -/
theorem release_reply (hs : s.Sound) (hh : s.hold? name = some h) :
    (s.step (.use name .release)).reply = .answer .done := by
  cases h with
  | pointer p => rw [release_pointer_turn hs hh]
  | view v => rw [release_view_turn hs hh]

/-- Dropping what is held never fails. -/
theorem drop_reply (hs : s.Sound) (hh : s.hold? name = some h) :
    (s.step (.drop name)).reply = .answer .done := by
  rw [drop_turn hs hh]

end Sound

/-! ### Clones -/

/-- **Every handle to a memory has clones**, whatever state the lock of the memory is in.  A clone
is the same handle by another name, and nothing else changes. -/
theorem clone_turn {handle : Source} (untaken : s.isTaken name = false)
    (of : s.value? origin = some (.source handle)) (owned : handle.memory? = some id) :
    s.step (.clone name origin) =
      (s.addValue name (.source handle)).replying (.answer .done) := by
  rw [step_clone untaken]
  simp only [clone, of]
  cases handle with
  | buffer => rfl
  | tensor => rfl
  | foreign => cases owned

/-- A further handle that is asked what it is cannot be had of a buffer with a poisoned lock. -/
theorem derive_same_of_poisoned {b : Buffer} (untaken : s.isTaken name = false)
    (of : s.value? origin = some (.source (.buffer b)))
    (poisoned : (s.store.memory b.memory).poisoned = true) :
    s.step (.derive name origin .same) = s.replying (.failed (.faulted .poisonedLock)) := by
  have length := Memory.length_of_poisoned poisoned
  rw [step_derive untaken]
  simp only [derive, of, Derivation.source?, introduce, info, length]
  rfl

/-- A buffer asks for more than an allocation can hold.  It has clones all the same, but no further
handle that is asked what it is. -/
example :
    let s := after {} [.create "buffer" (.zeroed 4), .call "buffer" (.resize (2 ^ 63))]
    (s.step (.clone "clone" "buffer")).session.value? "clone" = s.value? "buffer" ∧
      (s.step (.derive "same" "buffer" .same)).session.value? "same" = none :=
  ⟨rfl, rfl⟩

/-- **No lease goes back through a poisoned lock.**  At every point of every session, a memory whose
lock is poisoned has no view outstanding, held or lost, and its lock is poisoned for good.  A view
that is outstanding is counted, so the count that it is struck out of is not zero.  So no pointer
and no view faults when it is released or dropped, and nothing that is lent and does not meet its
contract faults on its way back. -/
theorem poisoned_lock_without_views (before later : List Step) :
    let s := after {} before
    (∀ id, (s.store.memory id).poisoned = true →
      (∀ w, Lease.memory id w ∉ s.unreturned) ∧ (s.store.memory id).outstanding = 0 ∧
        ((after {} (before ++ later)).store.memory id).poisoned = true) ∧
    (∀ id w, Lease.memory id w ∈ s.unreturned →
      0 < (s.store.memory id).views w ∧
        (s.store.memory id).release w = .ok ((s.store.memory id).repaid w)) ∧
    (∀ name h, s.hold? name = some h →
      (s.step (.use name .release)).reply = .answer .done ∧
        (s.step (.drop name)).reply = .answer .done) ∧
    ∀ name source c g, s.value? name = some (.source source) →
      (s.store.lend c source).result = .ok g →
        ((s.store.lend c source).store.giveBack g.lease).result = .ok () := by
  intro s
  have hs : s.Sound := after_sound sound_empty before
  refine ⟨fun id hp => ⟨hs.not_mem_unreturned hp, hs.outstanding_eq_zero hp, ?_⟩,
    fun id w hl => hs.release_eq hl,
    fun name h hh => ⟨hs.release_reply hh, hs.drop_reply hh⟩,
    fun name source c g of lent => hs.giveBack_of_lend of lent⟩
  rw [after_append]
  exact after_poisoned hs hp later

/-- A buffer asks for more than an allocation can hold while a view of another one is held.  Its
memory stays poisoned through a further request, and the view is dropped without a fault. -/
theorem poisoned_lock_without_views_oversized_resize :
    let steps := [Step.create "kept" (.zeroed 4), .create "broken" (.zeroed 4),
      .acquire "view" "kept" (.viewUnder .simple), .call "broken" (.resize (2 ^ 63))]
    let s := Session.after {} steps
    (s.store.memory 1).poisoned = true ∧ (s.store.memory 1).outstanding = 0 ∧
      ((Session.after {} (steps ++ [.acquire "pointer" "broken" .simplePointer])).store.memory
        1).poisoned = true ∧
      (s.hold? "view").isSome ∧ (s.step (.drop "view")).reply = .answer .done := by
  have h := poisoned_lock_without_views [Step.create "kept" (.zeroed 4),
    .create "broken" (.zeroed 4), .acquire "view" "kept" (.viewUnder .simple),
    .call "broken" (.resize (2 ^ 63))] [.acquire "pointer" "broken" .simplePointer]
  exact ⟨rfl, (h.1 1 rfl).2.1, (h.1 1 rfl).2.2, rfl, (h.2.2.1 "view" _ rfl).2⟩

end Session
end MemoryLease
