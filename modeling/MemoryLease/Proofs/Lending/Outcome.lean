import MemoryLease.Proofs.Lending.Account

/-!
# What comes of lending

Everything that lending and giving back can do to a store is entering a lease (`Store.enter`),
striking it out (`Store.repay`), and losing it (`Store.abandon`).  `Lending` lists what comes of
asking a source for its memory, one case for each outcome with all that has to hold for it, and
`lending` says that one of them does; whoever calls `Store.lend` splits on it instead of opening the
definition.
-/

namespace MemoryLease
namespace Source

/-- Whether a source refuses to lend its memory for writing. -/
def isReadOnly : Source → Bool
  | .buffer b => b.readOnly
  | .tensor t => t.readOnly
  | .foreign _ => false

/-- The region that a source states in a state of its memory. -/
def region (s : Store) (m : Memory) : Source → Except Fault Region
  | .buffer b => b.region m
  | .tensor t => t.region m
  | .foreign id => (s.foreign id).description.region

end Source

namespace Store

/-- The memory that a lease has to be returned to, if it is one, is in the store. -/
def HasLease (s : Store) : Lease → Prop
  | .memory id _ => id < s.memories.length
  | .foreign _ _ => True

/-- What a source needs is in the store. -/
def HasSource (s : Store) : Source → Prop
  | .buffer b => b.memory < s.memories.length
  | .tensor t => t.memory < s.memories.length
  | .foreign id => id < s.foreigns.length

/-- Replacing a memory that is not there changes nothing. -/
theorem memory_setMemory_cases (s : Store) (id : Nat) (m : Memory) (other : Nat) :
    (s.setMemory id m).memory other = s.memory other ∨
      other = id ∧ (s.setMemory id m).memory other = m := by
  by_cases e : id = other
  · subst e
    by_cases hl : id < s.memories.length
    · exact .inr ⟨rfl, memory_setMemory_self hl m⟩
    · rw [setMemory, List.set_eq_of_length_le (Nat.le_of_not_lt hl)]
      exact .inl rfl
  · exact .inl (memory_setMemory_of_ne e m)

/-- A memory that is replaced by one in the same place leaves every memory in its place. -/
theorem inPlace_setMemory {s : Store} {id : Nat} {m : Memory} (h : (s.memory id).InPlace m)
    (other : Nat) : (s.memory other).InPlace ((s.setMemory id m).memory other) := by
  rcases memory_setMemory_cases s id m other with he | ⟨rfl, he⟩
  · rw [he]
    exact .refl _
  · rwa [he]

/-- A memory that is replaced by one with the same views leaves every account as it was. -/
theorem views_setMemory {s : Store} {id : Nat} {m : Memory}
    (h : ∀ w, m.views w = (s.memory id).views w) (other : Nat) (w : Bool) :
    ((s.setMemory id m).memory other).views w = (s.memory other).views w := by
  rcases memory_setMemory_cases s id m other with he | ⟨rfl, he⟩
  · rw [he]
  · rw [he, h]

/-- A memory that is replaced by one with the same bytes leaves all bytes as they were. -/
theorem bytes_setMemory {s : Store} {id : Nat} {m : Memory} (h : m.bytes = (s.memory id).bytes)
    (other : Nat) : ((s.setMemory id m).memory other).bytes = (s.memory other).bytes := by
  rcases memory_setMemory_cases s id m other with he | ⟨rfl, he⟩
  · rw [he]
  · rw [he, h]

/-! ### Entering and striking out a lease -/

/-- The foreign source after it has been asked under a contract. -/
def ask (s : Store) (id : Nat) (c : Contract) : Store :=
  s.setForeign id { s.foreign id with seen := (s.foreign id).seen ++ [c] }

/-- The store in which a lease is entered that has been granted under a contract. -/
def enter (s : Store) (c : Contract) : Lease → Store
  | .memory id w => s.setMemory id ((s.memory id).lent w)
  | .foreign id _ => s.setForeign id
      { s.foreign id with
        seen := (s.foreign id).seen ++ [c]
        granted := (s.foreign id).granted + 1 }

/-- What is recorded of entering a lease. -/
def entry (s : Store) : Lease → List Event
  | .memory id w => [.registered id w (s.memory id).size ((s.memory id).base id)]
  | .foreign _ _ => []

/-- The store in which a lease is struck out. -/
def repay (s : Store) : Lease → Store
  | .memory id w => s.setMemory id ((s.memory id).repaid w)
  | .foreign id ticket => s.setForeign id
      { s.foreign id with returned := (s.foreign id).returned ++ [ticket] }

/-- What is recorded of striking out a lease. -/
def receipt (s : Store) : Lease → List Event
  | .memory id w => [.released id w ((s.memory id).repaid w).outstanding]
  | .foreign _ _ => []

/-- A lease can be struck out of the account that it has been entered in. -/
def CanRepay (s : Store) : Lease → Prop
  | .memory id w => (s.memory id).poisoned = false ∧ 0 < (s.memory id).views w
  | .foreign _ _ => True

/-- Giving back a lease that can be struck out goes well. -/
theorem giveBack_of_canRepay {s : Store} {l : Lease} (h : s.CanRepay l) :
    s.giveBack l = { store := s.repay l, events := s.receipt l, result := .ok () } := by
  cases l with
  | memory id w =>
    obtain ⟨hp, hv⟩ := h
    simp only [giveBack, Memory.release_of_pos hp hv]
    rfl
  | foreign id ticket => rfl

/-- Entering a lease counts one view more, of its memory and its access. -/
theorem views_enter {s : Store} {l : Lease} (h : s.HasLease l) (c : Contract) (id : Nat)
    (w : Bool) : ((s.enter c l).memory id).views w =
      (s.memory id).views w + [l].count (.memory id w) := by
  cases l with
  | foreign => rfl
  | memory id' w' =>
    by_cases e : id' = id
    · subst e
      rw [enter, memory_setMemory_self h, Memory.views_lent]
      simp [List.count_singleton]
    · rw [enter, memory_setMemory_of_ne e]
      simp [e]

/-- Striking out a lease counts one view less, of its memory and its access. -/
theorem views_repay {s : Store} {l : Lease} (h : s.HasLease l) (id : Nat) (w : Bool) :
    ((s.repay l).memory id).views w =
      (s.memory id).views w - [l].count (.memory id w) := by
  cases l with
  | foreign => rfl
  | memory id' w' =>
    by_cases e : id' = id
    · subst e
      rw [repay, memory_setMemory_self h, Memory.views_repaid]
      simp [List.count_singleton]
    · rw [repay, memory_setMemory_of_ne e]
      simp [e]

/-- Entering a lease leaves every memory in its place. -/
theorem inPlace_enter (s : Store) (c : Contract) (l : Lease) (id : Nat) :
    (s.memory id).InPlace ((s.enter c l).memory id) := by
  cases l with
  | foreign => exact .refl _
  | memory id' w => exact inPlace_setMemory (Memory.inPlace_lent _ _) id

/-- Striking out a lease leaves every memory in its place. -/
theorem inPlace_repay (s : Store) (l : Lease) (id : Nat) :
    (s.memory id).InPlace ((s.repay l).memory id) := by
  cases l with
  | foreign => exact .refl _
  | memory id' w => exact inPlace_setMemory (Memory.inPlace_repaid _ _) id

/-- Entering a lease changes no byte. -/
theorem bytes_enter (s : Store) (c : Contract) (l : Lease) (id : Nat) :
    ((s.enter c l).memory id).bytes = (s.memory id).bytes := by
  cases l with
  | foreign => rfl
  | memory other w =>
    have same : ((s.memory other).lent w).bytes = (s.memory other).bytes := rfl
    exact bytes_setMemory same id

/-- Striking out a lease changes no byte. -/
theorem bytes_repay (s : Store) (l : Lease) (id : Nat) :
    ((s.repay l).memory id).bytes = (s.memory id).bytes := by
  cases l with
  | foreign => rfl
  | memory other w =>
    have same : ((s.memory other).repaid w).bytes = (s.memory other).bytes := rfl
    exact bytes_setMemory same id

/-! ### Asking a source for its memory -/

/-- A source grants a lease under a contract. -/
inductive Grants (s : Store) (c : Contract) : Source → Lease → Prop
  /-- A memory grants it through a handle that may lend for writing if the contract is for writing,
  unless its lock is poisoned or a view is outstanding that conflicts. -/
  | owned {source : Source} {id : Nat} (of : source.memory? = some id)
      (access : c.isWritable = true → source.isReadOnly = false)
      (unpoisoned : (s.memory id).poisoned = false)
      (free : (s.memory id).conflicts c.isWritable = false) :
      Grants s c source (.memory id c.isWritable)
  /-- A foreign source that does not refuse grants it, and numbers it. -/
  | foreign {id : Nat} (willing : (s.foreign id).refusal = none) :
      Grants s c (.foreign id) (.foreign id (s.foreign id).granted)

/-- The memory of a lease once it is entered. -/
def lentMemory (s : Store) : Lease → Memory
  | .memory id w => (s.memory id).lent w
  | .foreign _ _ => default

/-- What comes of asking a source for its memory under a contract. -/
inductive Lending (s : Store) (c : Contract) : Source → Effect Grant → Prop
  /-- A handle for reading is asked for writing. -/
  | readOnly {source : Source} {id : Nat} (of : source.memory? = some id)
      (access : c.isWritable = true ∧ source.isReadOnly = true) :
      Lending s c source { store := s, result := .error (.refused .readOnly) }
  /-- The memory refuses, because its lock is poisoned or a view is outstanding that conflicts. -/
  | refused {source : Source} {id : Nat} {failure : Failure} (of : source.memory? = some id)
      (why : (s.memory id).register c.isWritable = .error failure) :
      Lending s c source { store := s, result := .error failure }
  /-- A foreign source refuses, or describes no region. -/
  | declined {id : Nat} {failure : Failure} :
      Lending s c (.foreign id) { store := s.ask id c, result := .error failure }
  /-- The lease is granted. -/
  | granted {source : Source} {lease : Lease} {r : Region} (grants : Grants s c source lease)
      (region : source.region s (s.lentMemory lease) = .ok r) :
      Lending s c source
        { store := s.enter c lease, events := s.entry lease, result := .ok ⟨r, lease⟩ }
  /-- The lease of a memory is granted, and lost because the handle cannot state a region. -/
  | lost {source : Source} {id : Nat} {fault : Fault} (of : source.memory? = some id)
      (grants : Grants s c source (.memory id c.isWritable))
      (region : source.region s ((s.memory id).lent c.isWritable) = .error fault) :
      Lending s c source
        { store := (s.enter c (.memory id c.isWritable)).abandon (.memory id c.isWritable)
          events := s.entry (.memory id c.isWritable)
          result := .error (.faulted fault) }

/-- What comes of asking a handle to a memory is one of the listed outcomes. -/
theorem lending_owned {s : Store} {c : Contract} {source : Source} {id : Nat}
    (of : source.memory? = some id) :
    Lending s c source (s.lendMemory id source.isReadOnly (fun m => source.region s m) c) := by
  unfold lendMemory
  split
  · rename_i hr
    exact .readOnly of (by simpa using hr)
  · rename_i hr
    have access : c.isWritable = true → source.isReadOnly = false := fun hw => by
      simpa [hw] using hr
    dsimp only
    split
    · rename_i failure hf
      exact .refused of hf
    · rename_i m' hm
      obtain ⟨hp, hc, rfl⟩ := Memory.register_eq_ok_iff.1 hm
      have grants := Grants.owned of access hp hc
      split
      · rename_i fault hf
        exact .lost of grants hf
      · rename_i r hr
        exact .granted grants hr

/-- **What comes of lending** is one of the listed outcomes. -/
theorem lending (s : Store) (c : Contract) (source : Source) :
    Lending s c source (s.lend c source) := by
  cases source with
  | buffer b => exact @lending_owned s c (.buffer b) b.memory rfl
  | tensor t => exact @lending_owned s c (.tensor t) t.memory rfl
  | foreign id =>
    simp only [lend, lendForeign]
    split
    · exact .declined
    · rename_i hf
      split
      · exact .declined
      · rename_i r hr
        exact .granted (.foreign hf) hr

/-- What is granted can be struck out again. -/
theorem Grants.canRepay {s : Store} {c : Contract} {source : Source} {l : Lease}
    (h : s.Grants c source l) (hl : s.HasLease l) : (s.enter c l).CanRepay l := by
  cases h with
  | foreign => trivial
  | @owned _ id of access unpoisoned free =>
    refine ⟨?_, ?_⟩
    · rw [(inPlace_enter s c _ id).poisoned, unpoisoned]
    · rw [views_enter hl]
      simp

/-- A source that is there grants leases of what is there. -/
theorem Grants.hasLease {s : Store} {c : Contract} {source : Source} {l : Lease}
    (h : s.Grants c source l) (hs : s.HasSource source) : s.HasLease l := by
  cases h with
  | foreign => trivial
  | owned of =>
    cases source with
    | buffer b =>
      obtain rfl := Option.some.inj of
      exact hs
    | tensor t =>
      obtain rfl := Option.some.inj of
      exact hs
    | foreign => cases of

/-! ### Lending and the account -/

variable {s : Store} {c : Contract} {source : Source} {id : Nat}

/-- A memory that refuses a view leaves everything as it was. -/
theorem lend_of_register_error {failure : Failure} (of : source.memory? = some id)
    (access : c.isWritable = true → source.isReadOnly = false)
    (h : (s.memory id).register c.isWritable = .error failure) :
    s.lend c source = { store := s, result := .error failure } := by
  have hl := lending s c source
  generalize s.lend c source = lent at hl
  have granted : ∀ lease, s.Grants c source lease → False := by
    intro lease grants
    cases grants with
    | foreign => cases of
    | owned of' _ unpoisoned free =>
      obtain rfl := Option.some.inj (of.symm.trans of')
      rw [Memory.register_eq_ok_iff.2 ⟨unpoisoned, free, rfl⟩] at h
      cases h
  cases hl with
  | readOnly _ blocked =>
    rw [access blocked.1] at blocked
    cases blocked.2
  | refused of' why =>
    obtain rfl := Option.some.inj (of.symm.trans of')
    obtain rfl := Except.error.inj (h.symm.trans why)
    rfl
  | declined => cases of
  | granted grants => exact (granted _ grants).elim
  | lost _ grants => exact (granted _ grants).elim

/-- A memory that enters a view is lent, even if the handle cannot state a region. -/
theorem lend_of_register_ok {m : Memory} (of : source.memory? = some id)
    (access : c.isWritable = true → source.isReadOnly = false)
    (h : (s.memory id).register c.isWritable = .ok m) :
    (s.lend c source).events = s.entry (.memory id c.isWritable) ∧
      (s.lend c source).store.memories = (s.setMemory id m).memories := by
  obtain ⟨-, -, rfl⟩ := Memory.register_eq_ok_iff.1 h
  have hl := lending s c source
  generalize s.lend c source = lent at hl
  cases hl with
  | readOnly _ blocked =>
    rw [access blocked.1] at blocked
    cases blocked.2
  | refused of' why =>
    obtain rfl := Option.some.inj (of.symm.trans of')
    rw [h] at why
    cases why
  | declined => cases of
  | granted grants =>
    cases grants with
    | foreign => cases of
    | owned of' =>
      obtain rfl := Option.some.inj (of.symm.trans of')
      exact ⟨rfl, rfl⟩
  | lost of' =>
    obtain rfl := Option.some.inj (of.symm.trans of')
    exact ⟨rfl, rfl⟩

end Store
end MemoryLease
