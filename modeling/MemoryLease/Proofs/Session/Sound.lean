import MemoryLease.Proofs.Session.Account

/-!
# Every move keeps the accounts in order

A move is followed case by case through the leases that are not returned
(`Move.count_unreturned`) and through the accounts of the memories (`Move.views_memory`).  In both,
what is there afterwards and what has been struck out is together what was there before and what has
been entered, so a memory that counted its leases still does (`Move.sound`).  No move takes a memory
out of its place while a view of it is outstanding (`Move.memory_cases`).
-/

namespace MemoryLease
namespace Session

open Event (entered returned)

variable {s s' : Session} {t : Step} {es : List Event}

/-- A name is free exactly if it stands for no value and nothing that is held. -/
theorem isTaken_eq_false_iff {name : String} :
    s.isTaken name = false ↔ s.value? name = none ∧ s.hold? name = none := by
  simp [isTaken]

/-- What is asked stands for something. -/
theorem Asks.value? {source : Source} {c : Contract} (h : Asks s t source c) :
    ∃ name, s.value? name = some (.source source) := by
  cases h with
  | lend of => exact ⟨_, of⟩
  | acquire of => exact ⟨_, of⟩

/-- What a source needs that is asked is there. -/
theorem Asks.hasSource {source : Source} {c : Contract} (h : Asks s t source c) (hs : s.Sound) :
    s.store.HasSource source := by
  obtain ⟨name, of⟩ := h.value?
  exact hs.hasSource of

/-- The leases that are not returned depend on the store only for those that are lost. -/
theorem unreturned_of_abandoned {store : Store} (h : store.abandoned = s.store.abandoned) :
    ({ s with store } : Session).unreturned = s.unreturned := by
  simp only [unreturned, h]

/-! ### Striking out a lease if there is one -/

/-- Giving back what is held loses no lease. -/
theorem abandoned_repay? (s : Store) (l : Option Lease) : (s.repay? l).abandoned = s.abandoned := by
  cases l with
  | none => rfl
  | some l => exact Store.abandoned_repay s l

/-- Giving back what is held takes no memory and no foreign source away. -/
theorem grows_repay? (s : Store) (l : Option Lease) : s.Grows (s.repay? l) := by
  cases l with
  | none => exact .refl s
  | some l => exact Store.grows_repay s l

/-- Giving back what is held leaves every memory in its place. -/
theorem inPlace_repay? (s : Store) (l : Option Lease) (id : Nat) :
    (s.memory id).InPlace ((s.repay? l).memory id) := by
  cases l with
  | none => exact .refl _
  | some l => exact Store.inPlace_repay s l id

/-- Giving back what is held changes no byte. -/
theorem bytes_repay? (s : Store) (l : Option Lease) (id : Nat) :
    ((s.repay? l).memory id).bytes = (s.memory id).bytes := by
  cases l with
  | none => rfl
  | some l => exact Store.bytes_repay s l id

/-- What is recorded of giving back enters no lease. -/
theorem entered_receipt? (s : Store) (l : Option Lease) : entered (s.receipt? l) = [] := by
  cases l with
  | none => rfl
  | some l => exact entered_receipt s l

/-- What is recorded of giving back strikes out what was held. -/
theorem returned_receipt? (s : Store) (l : Option Lease) (id : Nat) (w : Bool) :
    (returned (s.receipt? l)).count (.memory id w) = l.toList.count (.memory id w) := by
  cases l with
  | none => rfl
  | some l => exact returned_receipt s l id w

/-- Giving back what is held counts one view less of it. -/
theorem Sound.views_repay? (hs : s.Sound) {name : String} {h : Hold} (hh : s.hold? name = some h)
    (id : Nat) (w : Bool) :
    ((s.store.repay? h.lease?).memory id).views w + h.lease?.toList.count (.memory id w) =
      (s.store.memory id).views w := by
  cases hl : h.lease? with
  | none => rfl
  | some l =>
    have hm := lease_mem_unreturned hh hl
    rw [Store.repay?, Store.views_repay (hs.hasLease hm), Option.toList_some]
    by_cases e : l = .memory id w
    · subst e
      have := (hs.canRepay hm).2
      rw [List.count_singleton_self]
      omega
    · rw [List.count_eq_zero_of_not_mem (by simpa using Ne.symm e)]
      rfl

/-! ### Giving back what is held -/

/-- What a name gives back when it goes is no longer to be returned. -/
theorem unreturned_consume (hs : s.Sound) {name : String} {h : Hold} (hh : s.hold? name = some h)
    (l : Lease) :
    ({ s with store := s.store.repay? h.lease? }.forget name).unreturned.count l +
      h.lease?.toList.count l = s.unreturned.count l := by
  have given := unreturned_of_abandoned (s := s) (abandoned_repay? s.store h.lease?)
  rw [← given]
  exact unreturned_forget (s := { s with store := s.store.repay? h.lease? }) hs.names hh l

/-- What a pointer gives back when it stays is no longer to be returned. -/
theorem unreturned_release (hs : s.Sound) {name : String} {p : Pointer}
    (hh : s.hold? name = some (.pointer p)) (l : Lease) :
    ({ s with store := s.store.repay? (Hold.pointer p).lease? }.setHold name
        (.pointer ⟨p.origin, none⟩)).unreturned.count l +
      (Hold.pointer p).lease?.toList.count l = s.unreturned.count l := by
  have given := unreturned_of_abandoned (s := s) (abandoned_repay? s.store (Hold.pointer p).lease?)
  rw [← given]
  exact unreturned_setHold (s := { s with store := s.store.repay? (Hold.pointer p).lease? })
    hs.names hh (.pointer ⟨p.origin, none⟩) rfl l

namespace Move

/-- No move takes a memory or a foreign source away. -/
theorem grows (h : Move s t es s') : s.store.Grows s'.store := by
  cases h with
  | rest => exact .refl _
  | create _ made => exact made.grows
  | derive => exact .refl _
  | write => exact Store.grows_setMemory _ _ _
  | resize => exact Store.grows_setMemory _ _ _
  | poison => exact Store.grows_setMemory _ _ _
  | redescribe => exact Store.grows_setForeign _ _ _
  | ask => exact Store.grows_setForeign _ _ _
  | lose =>
    obtain ⟨hm, hf⟩ := Store.grows_enter s.store _ _
    exact ⟨hm, hf⟩
  | take => exact Store.grows_enter _ _ _
  | reject => exact (Store.grows_enter _ _ _).trans (Store.grows_repay _ _)
  | release => exact ⟨(grows_repay? _ _).memories, (grows_repay? _ _).foreigns⟩
  | consume => exact ⟨(grows_repay? _ _).memories, (grows_repay? _ _).foreigns⟩
  | forget => exact ⟨Nat.le_refl _, Nat.le_refl _⟩

/-- What nobody asks a source for is not lost. -/
theorem abandoned (h : Move s t es s') (unasked : ∀ source c, ¬ Asks s t source c) :
    s'.store.abandoned = s.store.abandoned := by
  cases h with
  | create _ made => exact made.abandoned
  | lose asks => exact absurd asks (unasked _ _)
  | take => exact Store.abandoned_enter _ _ _
  | reject => exact (Store.abandoned_repay _ _).trans (Store.abandoned_enter _ _ _)
  | release => exact abandoned_repay? _ _
  | consume => exact abandoned_repay? _ _
  | _ => rfl

/-- **The leases.**  Those that are not returned after a move, and those that it has struck out, are
those that were not returned before, and those that it has entered. -/
theorem count_unreturned (h : Move s t es s') (hs : s.Sound) (id : Nat) (w : Bool) :
    s'.unreturned.count (.memory id w) + (returned es).count (.memory id w) =
      s.unreturned.count (.memory id w) + (entered es).count (.memory id w) := by
  cases h with
  | rest quiet => rw [quiet.1, quiet.2]
  | create _ made =>
    have hu := unreturned_of_abandoned (s := s) made.abandoned
    exact congrArg (List.count _) hu
  | derive => rfl
  | write => rfl
  | resize => rfl
  | poison => rfl
  | redescribe => rfl
  | ask => rfl
  | @lose _ source c l =>
    rw [returned_entry, entered_entry, List.count_nil]
    simp only [unreturned, Store.abandon, Store.abandoned_enter, List.count_append]
    omega
  | @take name origin request source e =>
    have hu := unreturned_of_abandoned (s := s)
      (Store.abandoned_enter s.store request.contract e.lease)
    rw [unreturned_addHold, hu, Event.entered_append, Event.returned_append, returned_entry,
      Request.lease?_holding, Option.toList_some, List.count_append, List.count_append,
      entered_entry]
    rfl
  | @reject name origin request source l r refusal =>
    obtain ⟨he, hr⟩ := quiet_rejection r request.contract refusal
    have hu := unreturned_of_abandoned (s := s) ((Store.abandoned_repay _ l).trans
      (Store.abandoned_enter s.store request.contract l))
    rw [hu]
    simp only [Event.entered_append, Event.returned_append, he, hr, returned_entry,
      entered_receipt, List.count_append, entered_entry, returned_receipt, List.count_nil]
    omega
  | release of =>
    rw [returned_receipt?, entered_receipt?, unreturned_letGo, unreturned_release hs of]
    rfl
  | consume of =>
    rw [returned_receipt?, entered_receipt?, unreturned_letGo, unreturned_consume hs of]
    rfl
  | forget _ unheld =>
    rw [unreturned_letGo, unreturned_forget_of_unheld unheld]
    rfl

/-- **The accounts.**  A memory counts one view more for each lease that a move enters, and one less
for each that it strikes out. -/
theorem views_memory (h : Move s t es s') (hs : s.Sound) (id : Nat) (w : Bool) :
    (s'.store.memory id).views w + (returned es).count (.memory id w) =
      (s.store.memory id).views w + (entered es).count (.memory id w) := by
  cases h with
  | rest quiet => rw [quiet.1, quiet.2]
  | create _ made => exact made.views id w
  | derive => rfl
  | write => exact Store.views_setMemory (fun w => by cases w <;> rfl) id w
  | resize => exact Store.views_setMemory (fun w => by cases w <;> rfl) id w
  | poison => exact Store.views_setMemory (fun w => by cases w <;> rfl) id w
  | redescribe => rfl
  | ask => rfl
  | lose asks grants =>
    rw [returned_entry, entered_entry, Store.memory_abandon,
      Store.views_enter (grants.hasLease (asks.hasSource hs))]
    rfl
  | take _ of acquires =>
    rw [Event.entered_append, Event.returned_append, returned_entry, List.count_append,
      List.count_append, entered_entry]
    exact Store.views_enter (acquires.grants.hasLease (hs.hasSource of)) _ id w
  | @reject name origin request source l r refusal of _ grants =>
    obtain ⟨he, hr⟩ := quiet_rejection r request.contract refusal
    have hl := grants.hasLease (hs.hasSource of)
    simp only [Event.entered_append, Event.returned_append, he, hr, returned_entry,
      entered_receipt, List.count_append, entered_entry, returned_receipt, List.count_nil,
      Store.views_repay (hl.enter request.contract l), Store.views_enter hl]
    omega
  | release of =>
    rw [returned_receipt?, entered_receipt?]
    exact hs.views_repay? of id w
  | consume of =>
    rw [returned_receipt?, entered_receipt?]
    exact hs.views_repay? of id w
  | forget => rfl

/-- **What stays in place.**  A move takes a memory out of its place only if it makes the memory, or
resizes it through a buffer while its lock is not poisoned and no view of it is outstanding. -/
theorem memory_cases (h : Move s t es s') (id : Nat) :
    (s.store.memory id).InPlace (s'.store.memory id) ∨
      (id = s.store.memories.length ∧ (s'.store.memory id).Fresh) ∨
      ∃ name b, s.value? name = some (.source (.buffer b)) ∧ b.memory = id ∧
        (s.store.memory id).Resized (s'.store.memory id) := by
  have resized : ∀ {name b changed}, s.value? name = some (.source (.buffer b)) →
      (s.store.memory b.memory).Resized changed →
      (s.store.memory id).InPlace ((s.store.setMemory b.memory changed).memory id) ∨
        (id = s.store.memories.length ∧
          ((s.store.setMemory b.memory changed).memory id).Fresh) ∨
        ∃ name b', s.value? name = some (.source (.buffer b')) ∧ b'.memory = id ∧
          (s.store.memory id).Resized ((s.store.setMemory b.memory changed).memory id) := by
    intro name b changed of hr
    rcases Store.memory_setMemory_cases s.store b.memory changed id with same | ⟨rfl, new⟩
    · rw [same]
      exact .inl (.refl _)
    · rw [new]
      exact .inr (.inr ⟨name, b, of, rfl, hr⟩)
  cases h with
  | rest => exact .inl (.refl _)
  | create _ made =>
    rcases made.memory_cases id with same | new
    · exact .inl (same ▸ .refl _)
    · exact .inr (.inl new)
  | derive => exact .inl (.refl _)
  | @write _ other _ _ block _ fits =>
    have place : (s.store.memory other).InPlace { s.store.memory other with block } :=
      ⟨rfl, (Block.size_of_splice? fits).1, rfl, rfl⟩
    exact .inl (Store.inPlace_setMemory place id)
  | resize of _ unpoisoned free fits fitted =>
    have size := Nat.le_of_eq (Block.size_of_fitted fitted)
    exact resized of ⟨unpoisoned, free, rfl, .inr (Nat.le_trans size fits)⟩
  | poison of _ unpoisoned free => exact resized of ⟨unpoisoned, free, rfl, .inl rfl⟩
  | redescribe => exact .inl (.refl _)
  | ask => exact .inl (.refl _)
  | lose => exact .inl (Store.inPlace_enter _ _ _ id)
  | take => exact .inl (Store.inPlace_enter _ _ _ id)
  | reject => exact .inl ((Store.inPlace_enter _ _ _ id).trans (Store.inPlace_repay _ _ id))
  | release => exact .inl (inPlace_repay? _ _ id)
  | consume => exact .inl (inPlace_repay? _ _ id)
  | forget => exact .inl (.refl _)

/-- A memory of which a view is outstanding stays in place. -/
theorem inPlace_of_views_pos (h : Move s t es s') {id : Nat} {w : Bool}
    (hv : 0 < (s.store.memory id).views w) :
    (s.store.memory id).InPlace (s'.store.memory id) := by
  rcases h.memory_cases id with hp | ⟨rfl, -⟩ | ⟨name, b, -, -, resized⟩
  · exact hp
  · rw [Store.memory_of_length_le (Nat.le_refl _)] at hv
    cases w <;> exact absurd hv (Nat.lt_irrefl 0)
  · have hf := resized.free
    rw [Memory.outstanding_eq] at hf
    cases w <;> omega

/-- A move adds a view to an account only if none conflicts with it. -/
theorem views_le_or (h : Move s t es s') (hs : s.Sound) (id : Nat) :
    (∀ w, (s'.store.memory id).views w ≤ (s.store.memory id).views w) ∨
      ∃ w, (s'.store.memory id).poisoned = false ∧ (s.store.memory id).conflicts w = false ∧
        ∀ w', (s'.store.memory id).views w' =
          (s.store.memory id).views w' + if w = w' then 1 else 0 := by
  have hle : entered es = [] → ∀ w, (s'.store.memory id).views w ≤
      (s.store.memory id).views w := by
    intro he w
    have hv := h.views_memory hs id w
    rw [he, List.count_nil] at hv
    omega
  cases h with
  | rest quiet => exact .inl (hle quiet.1)
  | lose asks grants =>
    exact grants.views_le_or (grants.hasLease (asks.hasSource hs)) id
  | take _ of acquires =>
    exact acquires.grants.views_le_or (acquires.grants.hasLease (hs.hasSource of)) id
  | @reject name origin request source l r refusal of _ grants =>
    have hl := grants.hasLease (hs.hasSource of)
    refine .inl fun w => ?_
    simp only [Store.views_repay (hl.enter request.contract l), Store.views_enter hl]
    omega
  | release => exact .inl (hle (entered_receipt? _ _))
  | consume => exact .inl (hle (entered_receipt? _ _))
  | _ => exact .inl (hle rfl)

/-- A move gives a name to at most one value, which it has made or derived from another. -/
theorem values_cases (h : Move s t es s') :
    (∀ entry, entry ∈ s'.values → entry ∈ s.values) ∨
      ∃ name v, s'.values = s.values.add name v ∧ (Made s.store s'.store v ∨
        ∃ origin derivation handle derived, s.value? origin = some (.source handle) ∧
          Derivation.source? derivation handle = some (.ok derived) ∧ v = .source derived) := by
  cases h with
  | create _ made => exact .inr ⟨_, _, rfl, .inl made⟩
  | derive _ _ of made => exact .inr ⟨_, _, rfl, .inr ⟨_, _, _, _, of, made, rfl⟩⟩
  | consume => exact .inl fun entry hm => Names.mem_of_mem_remove hm
  | forget => exact .inl fun entry hm => Names.mem_of_mem_remove hm
  | _ => exact .inl fun entry hm => hm

/-- A handle after a move is one before it, is derived from one before it, or has been made. -/
theorem source_cases (h : Move s t es s') {name : String} {source : Source}
    (hm : (name, Value.source source) ∈ s'.values) :
    (∃ name, (name, Value.source source) ∈ s.values) ∨
      (∃ origin derivation handle, s.value? origin = some (.source handle) ∧
        Derivation.source? derivation handle = some (.ok source)) ∨
      Made s.store s'.store (.source source) := by
  rcases h.values_cases with hsub | ⟨n, v, he, hnew⟩
  · exact .inl ⟨name, hsub _ hm⟩
  · rw [he] at hm
    rcases Names.mem_of_mem_add hm with hm | rfl
    · exact .inl ⟨name, hm⟩
    · rcases hnew with made | ⟨origin, derivation, handle, derived, of, made, hd⟩
      · exact .inr (.inr made)
      · obtain rfl := Value.source.inj hd
        exact .inr (.inl ⟨origin, derivation, handle, of, made⟩)

/-- What the values need stays there. -/
theorem sources (h : Move s t es s') (hs : s.Sound) {name : String} {source : Source}
    (hm : (name, Value.source source) ∈ s'.values) : s'.store.HasSource source := by
  rcases h.source_cases hm with ⟨name', hm⟩ | ⟨origin, derivation, handle, of, made⟩ | made
  · exact h.grows.hasSource (hs.sources name' source hm)
  · exact derived_hasSource made (h.grows.hasSource (hs.hasSource of))
  · exact made.hasSource rfl

/-- No move gives one name to two pointers or views. -/
theorem names (h : Move s t es s') (hs : s.Sound) : s'.holds.names.Nodup := by
  cases h with
  | take untaken => exact Names.nodup_names_add hs.names (isTaken_eq_false_iff.1 untaken).2 _
  | release =>
    simp only [holds_letGo, setHold, Names.names_replace]
    exact hs.names
  | consume => exact Names.nodup_names_remove hs.names _
  | forget => exact Names.nodup_names_remove hs.names _
  | _ => exact hs.names

/-- **Every move keeps the accounts in order.** -/
theorem sound (h : Move s t es s') (hs : s.Sound) : s'.Sound where
  names := h.names hs
  sources := fun _ _ hm => h.sources hs hm
  views := fun id w => by
    have hv := h.views_memory hs id w
    have hc := h.count_unreturned hs id w
    have := hs.views id w
    omega
  alone := fun id => by
    obtain ⟨h₁, h₂⟩ := hs.alone id
    rcases h.views_le_or hs id with hle | ⟨w, -, hc, hv⟩
    · have := hle true
      have := hle false
      exact ⟨by omega, fun _ => by omega⟩
    · obtain ⟨h₃, h₄⟩ := Memory.conflicts_eq_false_iff.1 hc
      rw [hv, hv]
      cases w with
      | true =>
        have := h₄ rfl
        simp only [if_true, Bool.true_eq_false, if_false]
        omega
      | false =>
        simp only [Bool.false_eq_true, if_false, if_true]
        omega
  unpoisoned := fun id hp w => by
    rcases h.views_le_or hs id with hle | ⟨w', hp', -, -⟩
    · have hz : (s.store.memory id).views w = 0 := by
        by_contra hne
        have hi := h.inPlace_of_views_pos (Nat.pos_of_ne_zero hne)
        exact hne (hs.unpoisoned id (hi.poisoned.symm.trans hp) w)
      have := hle w
      omega
    · rw [hp'] at hp
      cases hp

end Move
end Session
end MemoryLease
