import MemoryLease.Proofs.Session.Move
import MemoryLease.Proofs.Tensor.Reindexing

/-!
# The accounts of a session

The leases that a session still has to return are those of its pointers and views, and those that
nobody can return any more (`Session.unreturned`).  The accounts are in order (`Session.Sound`) if
every memory counts as many views as there are leases of it among them.  Each move enters into the
accounts what it adds to the leases and strikes out what it takes from them
(`Move.count_unreturned`, `Move.views_memory`), so it keeps them in order (`Move.sound`).
-/

namespace MemoryLease

/-! ### What grows -/

namespace Store

/-- No memory and no foreign source goes. -/
structure Grows (s s' : Store) : Prop where
  memories : s.memories.length ≤ s'.memories.length
  foreigns : s.foreigns.length ≤ s'.foreigns.length

theorem Grows.refl (s : Store) : s.Grows s := ⟨Nat.le_refl _, Nat.le_refl _⟩

/-- What a source needs is still there in a store that has grown. -/
theorem Grows.hasSource {s s' : Store} (h : s.Grows s') {source : Source}
    (hs : s.HasSource source) : s'.HasSource source := by
  cases source with
  | buffer b => exact Nat.lt_of_lt_of_le hs h.memories
  | tensor t => exact Nat.lt_of_lt_of_le hs h.memories
  | foreign id => exact Nat.lt_of_lt_of_le hs h.foreigns

/-- Replacing a memory takes none away. -/
theorem grows_setMemory (s : Store) (id : Nat) (m : Memory) : s.Grows (s.setMemory id m) := by
  constructor <;> simp [setMemory]

/-- Replacing a foreign source takes none away. -/
theorem grows_setForeign (s : Store) (id : Nat) (f : ForeignSource) :
    s.Grows (s.setForeign id f) := by
  constructor <;> simp [setForeign]

/-- Entering a lease takes no memory and no foreign source away. -/
theorem grows_enter (s : Store) (c : Contract) (l : Lease) : s.Grows (s.enter c l) := by
  cases l with
  | memory => exact grows_setMemory _ _ _
  | foreign => exact grows_setForeign _ _ _

/-- Striking out a lease takes no memory and no foreign source away. -/
theorem grows_repay (s : Store) (l : Lease) : s.Grows (s.repay l) := by
  cases l with
  | memory => exact grows_setMemory _ _ _
  | foreign => exact grows_setForeign _ _ _

theorem Grows.trans {s₁ s₂ s₃ : Store} (h : s₁.Grows s₂) (h' : s₂.Grows s₃) : s₁.Grows s₃ :=
  ⟨h.memories.trans h'.memories, h.foreigns.trans h'.foreigns⟩

/-- Entering a lease loses none. -/
@[simp] theorem abandoned_enter (s : Store) (c : Contract) (l : Lease) :
    (s.enter c l).abandoned = s.abandoned := by
  cases l <;> rfl

/-- Striking out a lease loses none. -/
@[simp] theorem abandoned_repay (s : Store) (l : Lease) :
    (s.repay l).abandoned = s.abandoned := by
  cases l <;> rfl

/-- What a lease needs is still there when another one has been entered. -/
theorem HasLease.enter {s : Store} {l : Lease} (h : s.HasLease l) (c : Contract) (l' : Lease) :
    (s.enter c l').HasLease l := by
  cases l with
  | memory id w => exact Nat.lt_of_lt_of_le h (grows_enter s c l').memories
  | foreign => trivial

/-- What is granted is a view of a memory more, of which none conflicts. -/
theorem Grants.views_le_or {s : Store} {c : Contract} {source : Source} {l : Lease}
    (h : s.Grants c source l) (hl : s.HasLease l) (id : Nat) :
    (∀ w, ((s.enter c l).memory id).views w ≤ (s.memory id).views w) ∨
      ∃ w, ((s.enter c l).memory id).poisoned = false ∧ (s.memory id).conflicts w = false ∧
        ∀ w', ((s.enter c l).memory id).views w' =
          (s.memory id).views w' + if w = w' then 1 else 0 := by
  cases h with
  | foreign => exact .inl fun w => Nat.le_refl _
  | @owned _ id' of access unpoisoned free =>
    by_cases e : id' = id
    · subst e
      refine .inr ⟨c.isWritable, ?_, free, fun w' => ?_⟩
      · rw [(inPlace_enter s c _ id').poisoned, unpoisoned]
      · rw [enter, memory_setMemory_self hl, Memory.views_lent]
    · refine .inl fun w => ?_
      rw [enter, memory_setMemory_of_ne e]

end Store

namespace Session

/-- A further handle is the same buffer again, or a tensor that is derived from a tensor. -/
theorem derived_cases {derivation : Derivation} {handle derived : Source}
    (h : derivation.source? handle = some (.ok derived)) :
    (∃ b, handle = .buffer b ∧ derived = .buffer b) ∨
      ∃ t t', handle = .tensor t ∧ derived = .tensor t' ∧ derivation.tensor t = .ok t' := by
  cases handle with
  | buffer b =>
    cases derivation with
    | same =>
      cases h
      exact .inl ⟨b, rfl, rfl⟩
    | _ => cases h
  | tensor t =>
    rw [Derivation.source?_tensor, Option.some.injEq] at h
    obtain ⟨t', made, rfl⟩ := map_eq_ok_iff.1 h
    exact .inr ⟨t, t', rfl, rfl, made⟩
  | foreign => cases derivation <;> cases h

/-- A further handle is one to the same memory. -/
theorem memory?_of_derived {derivation : Derivation} {handle derived : Source}
    (h : derivation.source? handle = some (.ok derived)) : derived.memory? = handle.memory? := by
  rcases derived_cases h with ⟨b, rfl, rfl⟩ | ⟨t, t', rfl, rfl, made⟩
  · rfl
  · exact congrArg some (Tensor.memory_of_derivation made)

/-- What a further handle needs is there, since the handle that it is derived from needs it too. -/
theorem derived_hasSource {s : Store} {derivation : Derivation} {handle derived : Source}
    (h : derivation.source? handle = some (.ok derived)) (hs : s.HasSource handle) :
    s.HasSource derived := by
  rcases derived_cases h with ⟨b, rfl, rfl⟩ | ⟨t, t', rfl, rfl, made⟩
  · exact hs
  · simpa only [Store.HasSource, Tensor.memory_of_derivation made] using hs

/-- A memory that is added is the only one that changes. -/
theorem memory_addMemory_cases {s : Store} {m : Memory} (fresh : m.Fresh) (id : Nat) :
    (s.addMemory m).memory id = s.memory id ∨
      (id = s.memories.length ∧ ((s.addMemory m).memory id).Fresh) := by
  rcases Nat.lt_trichotomy id s.memories.length with hid | rfl | hid
  · exact .inl (Store.memory_addMemory_of_lt hid m)
  · exact .inr ⟨rfl, (Store.memory_addMemory s m).symm ▸ fresh⟩
  · rw [Store.memory_of_length_le (Nat.le_of_lt hid),
      Store.memory_of_length_le (by simpa [Store.addMemory, Nat.succ_le_iff] using hid)]
    exact .inl rfl

namespace Made

variable {s s' : Store} {v : Value}

/-- Making a value takes no memory and no foreign source away. -/
theorem grows (h : Made s s' v) : s.Grows s' := by
  cases h with
  | buffer => constructor <;> simp [Store.addMemory]
  | tensor => constructor <;> simp [Store.addMemory]
  | foreign => constructor <;> simp [Store.addForeign]
  | plain => exact .refl _

/-- Making a value loses no lease. -/
theorem abandoned (h : Made s s' v) : s'.abandoned = s.abandoned := by
  cases h <;> rfl

/-- What a value needs that has been made is there. -/
theorem hasSource (h : Made s s' v) {source : Source} (hv : v = .source source) :
    s'.HasSource source := by
  cases h with
  | buffer =>
    cases hv
    simp [Store.HasSource, Store.addMemory]
  | tensor fresh within =>
    cases hv
    simp [Store.HasSource, Store.addMemory, within]
  | foreign =>
    cases hv
    simp [Store.HasSource, Store.addForeign]
  | plain => cases hv

/-- Making a value changes no memory that is there, and may make a new one. -/
theorem memory_cases (h : Made s s' v) (id : Nat) :
    s'.memory id = s.memory id ∨ (id = s.memories.length ∧ (s'.memory id).Fresh) := by
  cases h with
  | buffer fresh => exact memory_addMemory_cases fresh id
  | tensor fresh => exact memory_addMemory_cases fresh id
  | foreign => exact .inl rfl
  | plain => exact .inl rfl

/-- Making a value changes no memory that is there. -/
theorem memory_of_lt (h : Made s s' v) {id : Nat} (hid : id < s.memories.length) :
    s'.memory id = s.memory id :=
  (h.memory_cases id).resolve_right fun new => absurd new.1 (Nat.ne_of_lt hid)

/-- Making a value enters nothing into an account. -/
theorem views (h : Made s s' v) (id : Nat) (w : Bool) :
    (s'.memory id).views w = (s.memory id).views w := by
  rcases h.memory_cases id with same | ⟨rfl, fresh⟩
  · rw [same]
  · rw [fresh.views, Store.memory_of_length_le (Nat.le_refl _)]
    cases w <;> rfl

end Made

/-! ### The leases that are not returned -/

/-- The leases that a session has to return and those that it has lost. -/
def unreturned (s : Session) : List Lease :=
  s.holds.filterMap (fun entry => entry.2.lease?) ++ s.store.abandoned

/-- Freeing a memory returns no lease. -/
@[simp] theorem unreturned_letGo (s : Session) (id? : Option Nat) :
    (s.letGo id?).unreturned = s.unreturned := rfl

/-- The accounts of a session are in order. -/
structure Sound (s : Session) : Prop where
  names : s.holds.names.Nodup
  /-- What the values need is there. -/
  sources : ∀ name source, (name, Value.source source) ∈ s.values → s.store.HasSource source
  /-- A memory counts the leases of it. -/
  views : ∀ id w, (s.store.memory id).views w = s.unreturned.count (.memory id w)
  /-- A view for writing is outstanding alone. -/
  alone : ∀ id, (s.store.memory id).views true ≤ 1 ∧
    ((s.store.memory id).views true = 1 → (s.store.memory id).views false = 0)
  /-- No view of a memory with a poisoned lock is outstanding. -/
  unpoisoned : ∀ id, (s.store.memory id).poisoned = true → ∀ w, (s.store.memory id).views w = 0

/-- A session without anything has its accounts in order. -/
theorem sound_empty : Sound {} where
  names := List.nodup_nil
  sources := fun _ _ h => absurd h List.not_mem_nil
  views := fun _ w => by cases w <;> rfl
  alone := fun _ => ⟨Nat.zero_le _, fun _ => rfl⟩
  unpoisoned := fun _ _ w => by cases w <;> rfl

namespace Sound

variable {s : Session} {name : String} {h : Hold} {source : Source} {l : Lease}

/-- What a value of the session needs is there. -/
theorem hasSource (hs : s.Sound) (hv : s.value? name = some (.source source)) :
    s.store.HasSource source :=
  hs.sources name source (Names.mem_of_lookup? hv)

/-- A lease that is not returned can be. -/
theorem canRepay (hs : s.Sound) (hl : l ∈ s.unreturned) : s.store.CanRepay l := by
  cases l with
  | foreign => trivial
  | memory id w =>
    have hv : 0 < (s.store.memory id).views w := by
      rw [hs.views]
      exact List.count_pos_iff.2 hl
    refine ⟨?_, hv⟩
    by_contra hp
    rw [Bool.not_eq_false] at hp
    have := hs.unpoisoned id hp w
    omega

/-- What is not returned is a lease of a memory that is there. -/
theorem hasLease (hs : s.Sound) (hl : l ∈ s.unreturned) : s.store.HasLease l := by
  cases l with
  | foreign => trivial
  | memory id w =>
    have hv := (hs.canRepay hl).2
    by_contra hid
    rw [Store.memory_of_length_le (Nat.le_of_not_lt hid)] at hv
    cases w <;> exact absurd hv (Nat.lt_irrefl 0)

end Sound

/-- A lease that is held is not returned yet. -/
theorem lease_mem_unreturned {s : Session} {name : String} {h : Hold} {l : Lease}
    (hh : s.hold? name = some h) (hl : h.lease? = some l) : l ∈ s.unreturned :=
  List.mem_append_left _ (List.mem_filterMap.2 ⟨(name, h), Names.mem_of_lookup? hh, hl⟩)

/-! ### What a move enters and strikes out -/

section Count

variable {s : Session} {name : String} {h : Hold}

/-- What is acquired adds its lease to those that are not returned. -/
theorem unreturned_addHold (s : Session) (name : String) (h : Hold) (l : Lease) :
    (s.addHold name h).unreturned.count l = s.unreturned.count l + h.lease?.toList.count l := by
  have ha : (s.holds.add name h).filterMap (fun entry => entry.2.lease?) =
      s.holds.filterMap (fun entry => entry.2.lease?) ++ h.lease?.toList := by
    rw [Names.add, List.filterMap_append, List.filterMap_cons]
    cases h.lease? <;> rfl
  simp only [unreturned, addHold, ha, List.count_append]
  omega

/-- The leases of a table of pointers and views split around the entry of a name. -/
theorem filterMap_split (before after : Names Hold) (name : String) (h : Hold) :
    (before ++ (name, h) :: after).filterMap (fun entry => entry.2.lease?) =
      before.filterMap (fun entry => entry.2.lease?) ++
        (h.lease?.toList ++ after.filterMap fun entry => entry.2.lease?) := by
  rw [List.filterMap_append, List.filterMap_cons]
  cases h.lease? <;> rfl

/-- What holds nothing any more takes its lease from those that are not returned. -/
theorem unreturned_setHold (hn : s.holds.names.Nodup) (hh : s.hold? name = some h) (h' : Hold)
    (hl : h'.lease? = none) (l : Lease) :
    (s.setHold name h').unreturned.count l + h.lease?.toList.count l = s.unreturned.count l := by
  obtain ⟨before, after, hs, hb, ha⟩ := Names.exists_split_of_lookup? hn hh
  simp only [unreturned, setHold, hs, Names.replace_split hb ha, filterMap_split, hl,
    Option.toList_none, List.count_append, List.count_nil]
  omega

/-- What goes takes its lease from those that are not returned. -/
theorem unreturned_forget (hn : s.holds.names.Nodup) (hh : s.hold? name = some h) (l : Lease) :
    (s.forget name).unreturned.count l + h.lease?.toList.count l = s.unreturned.count l := by
  obtain ⟨before, after, hs, hb, ha⟩ := Names.exists_split_of_lookup? hn hh
  simp only [unreturned, forget, hs, Names.remove_split hb ha, filterMap_split, List.count_append]
  rw [List.filterMap_append, List.count_append]
  omega

/-- The name of a value takes no lease with it. -/
theorem unreturned_forget_of_unheld (hh : s.hold? name = none) :
    (s.forget name).unreturned = s.unreturned := by
  simp only [unreturned, forget, Names.remove_of_not_mem (Names.lookup?_eq_none_iff.1 hh)]

end Count

/-! ### The record of a lease -/

/-- What is recorded of entering a lease enters that lease. -/
theorem entered_entry (s : Store) (l : Lease) (id : Nat) (w : Bool) :
    (Event.entered (s.entry l)).count (.memory id w) = [l].count (.memory id w) := by
  cases l <;> rfl

/-- What is recorded of entering a lease strikes out none. -/
theorem returned_entry (s : Store) (l : Lease) : Event.returned (s.entry l) = [] := by
  cases l <;> rfl

/-- What is recorded of striking out a lease strikes out that lease. -/
theorem returned_receipt (s : Store) (l : Lease) (id : Nat) (w : Bool) :
    (Event.returned (s.receipt l)).count (.memory id w) = [l].count (.memory id w) := by
  cases l <;> rfl

/-- What is recorded of striking out a lease enters none. -/
theorem entered_receipt (s : Store) (l : Lease) : Event.entered (s.receipt l) = [] := by
  cases l <;> rfl

/-- What is recorded of a rejected region is no lease. -/
theorem quiet_rejection (r : Region) (c : Contract) (refusal : Refusal) :
    Event.Quiet (Store.rejection r c refusal) := by
  unfold Store.rejection
  split
  · exact ⟨rfl, rfl⟩
  · cases r.inconsistency? <;> exact ⟨rfl, rfl⟩

end Session
end MemoryLease
