import MemoryLease.Proofs.Session.Steps

/-!
# The tensors of a session

A memory is made for buffers or for tensors, and no buffer is a handle to a memory that was made for
a tensor.  So nothing resizes such a memory or poisons its lock, and it stays in place for good
(`Move.rests`).  A session is laid out (`Session.Laid`) if its accounts are in order and every
tensor in it rests in its memory like that; every session that starts empty is (`after_laid`).
-/

namespace MemoryLease
namespace Session

/-- A tensor lies within its memory, and no buffer can take the memory out of its place. -/
structure Rests (s : Session) (t : Tensor) : Prop where
  fits : t.Fits (s.store.memory t.memory)
  unpoisoned : (s.store.memory t.memory).poisoned = false
  present : t.memory < s.store.memories.length
  unshared : ∀ name b, (name, Value.source (.buffer b)) ∈ s.values → b.memory ≠ t.memory

/-- A session whose accounts are in order and whose tensors rest in their memories. -/
structure Laid (s : Session) : Prop where
  sound : s.Sound
  rests : ∀ name t, (name, Value.source (.tensor t)) ∈ s.values → s.Rests t

/-- A session without anything is laid out. -/
theorem laid_empty : Laid {} := ⟨sound_empty, fun _ _ h => absurd h List.not_mem_nil⟩

variable {s s' : Session} {t : Step} {es : List Event} {u : Tensor}

/-- In a session that is laid out, every tensor fits into its memory. -/
theorem Laid.rests_of_value? (hs : s.Laid) {name : String}
    (hv : s.value? name = some (.source (.tensor u))) : s.Rests u :=
  hs.rests name u (Names.mem_of_lookup? hv)

/-- A tensor that shows the same memory rests in it as well. -/
theorem Rests.derived {u' : Tensor} (h : s.Rests u) (hm : u'.memory = u.memory)
    (hf : ∀ m, u.Fits m → u'.Fits m) : s.Rests u' := by
  obtain ⟨fits, unpoisoned, present, unshared⟩ := h
  rw [← hm] at fits unpoisoned present unshared
  exact ⟨hf _ fits, unpoisoned, present, unshared⟩

namespace Move

/-- No move takes the memory of a tensor out of its place. -/
theorem inPlace_of_rests (h : Move s t es s') (hr : s.Rests u) :
    (s.store.memory u.memory).InPlace (s'.store.memory u.memory) := by
  rcases h.memory_cases u.memory with hp | ⟨new, -⟩ | ⟨name, b, of, hb, -⟩
  · exact hp
  · exact absurd new (Nat.ne_of_lt hr.present)
  · exact absurd hb (hr.unshared name b (Names.mem_of_lookup? of))

/-- A buffer after a move is a handle to a memory of a buffer before it, or to a new one. -/
theorem buffer_cases (h : Move s t es s') {name : String} {b : Buffer}
    (hm : (name, Value.source (.buffer b)) ∈ s'.values) :
    (∃ name, (name, Value.source (.buffer b)) ∈ s.values) ∨
      b.memory = s.store.memories.length := by
  rcases h.source_cases hm with hm | ⟨origin, derivation, handle, of, made⟩ | made
  · exact .inl hm
  · rcases derived_cases made with ⟨b', rfl, hb⟩ | ⟨u, u', -, hu, -⟩
    · cases hb
      exact .inl ⟨origin, Names.mem_of_lookup? of⟩
    · cases hu
  · generalize s'.store = store at made
    cases made with
    | buffer => exact .inr rfl

/-- A tensor after a move is derived from one before it, if only as the same again, or it is new: it
lies in a new memory, and its items are counted. -/
theorem tensor_cases (h : Move s t es s') {name : String}
    (hm : (name, Value.source (.tensor u)) ∈ s'.values) :
    (∃ name derivation u', (name, Value.source (.tensor u')) ∈ s.values ∧
      Derivation.tensor derivation u' = .ok u) ∨
      u.memory = s.store.memories.length ∧ Shape.Counted u.shape := by
  rcases h.source_cases hm with ⟨name', hm⟩ | ⟨origin, derivation, handle, of, made⟩ | made
  · exact .inl ⟨name', .same, u, hm, rfl⟩
  · rcases derived_cases made with ⟨b, -, hb⟩ | ⟨u', u'', rfl, hu, hd⟩
    · cases hb
    · cases hu
      exact .inl ⟨origin, derivation, u', Names.mem_of_lookup? of, hd⟩
  · generalize s'.store = store at made
    cases made with
    | tensor _ within _ counted => exact .inr ⟨within, counted⟩

/-- **A tensor that rests in its memory** does so after every move. -/
theorem rests (h : Move s t es s') (hr : s.Rests u) : s'.Rests u := by
  have hp := h.inPlace_of_rests hr
  refine ⟨hr.fits.inPlace hp, hp.poisoned.trans hr.unpoisoned,
    Nat.lt_of_lt_of_le hr.present h.grows.memories, fun name b hm => ?_⟩
  rcases h.buffer_cases hm with ⟨name', hm'⟩ | hb
  · exact hr.unshared name' b hm'
  · rw [hb]
    exact Nat.ne_of_gt hr.present

/-- A tensor that is made rests in the memory that is made for it. -/
theorem rests_of_made (hs : s.Sound) {name : String} {v : Value}
    (he : s'.values = s.values.add name v) (made : Made s.store s'.store v)
    (hv : v = .source (.tensor u)) : s'.Rests u := by
  generalize hst : s'.store = store at made
  subst hv
  cases made with
  | @tensor m _ fresh within fits =>
    have hmem : s'.store.memory u.memory = m := by
      rw [hst, within, Store.memory_addMemory]
    refine ⟨hmem.symm ▸ fits, hmem.symm ▸ fresh.unpoisoned, ?_, fun name' b hb => ?_⟩
    · simp [hst, Store.addMemory, within]
    · rw [he] at hb
      rcases Names.mem_of_mem_add hb with hb | hb
      · have hlt : b.memory < s.store.memories.length := hs.sources name' _ hb
        rw [within]
        exact Nat.ne_of_lt hlt
      · cases hb

/-- **Every move leaves a session laid out.** -/
theorem laid (h : Move s t es s') (hs : s.Laid) : s'.Laid := by
  refine ⟨h.sound hs.sound, fun name u hm => ?_⟩
  rcases h.values_cases with hsub | ⟨n, v, he, hnew⟩
  · exact h.rests (hs.rests name u (hsub _ hm))
  · have hm' := hm
    rw [he] at hm'
    rcases Names.mem_of_mem_add hm' with hm' | hv
    · exact h.rests (hs.rests name u hm')
    · rcases hnew with made | ⟨origin, derivation, handle, derived, of, made, hd⟩
      · exact rests_of_made hs.sound he made hv.symm
      · obtain rfl := Value.source.inj (hv.trans hd)
        rcases derived_cases made with ⟨b', -, hb⟩ | ⟨u', u'', rfl, hu, made⟩
        · cases hb
        · cases hu
          exact (h.rests (hs.rests_of_value? of)).derived (Tensor.memory_of_derivation made)
            fun _ fits => fits.derived made

end Move

/-! ### Whole runs -/

/-- **Every session that starts laid out stays so.** -/
theorem after_laid (hs : s.Laid) (steps : List Step) : (s.after steps).Laid :=
  after_keeps (P := Laid) (fun m _ laid => m.laid laid) hs.sound hs steps

/-- **The memory of a tensor stays in place** for as long as a session runs. -/
theorem after_rests (hs : s.Laid) (hr : s.Rests u) (steps : List Step) :
    (s.after steps).Rests u ∧
      (s.store.memory u.memory).InPlace ((s.after steps).store.memory u.memory) :=
  after_keeps (P := fun s' => s'.Rests u ∧
      (s.store.memory u.memory).InPlace (s'.store.memory u.memory))
    (fun m _ ⟨rests, place⟩ => ⟨m.rests rests, place.trans (m.inPlace_of_rests rests)⟩)
    hs.sound ⟨hr, .refl _⟩ steps

end Session
end MemoryLease
