import MemoryLease.Proofs.Lending.Outcome
import MemoryLease.Proofs.Negotiation.Bounds
import MemoryLease.Proofs.Tensor.Walk

/-!
# What comes of acquiring a view

A view is acquired if the contract does not contradict itself, the source grants a lease, and the
region that the source states meets the contract (`Store.Acquires`).  The region of a memory depends
only on where the memory is, so it is the same as long as the memory stays in place
(`Source.region_inPlace`).  It lies within the memory if the source is a buffer, or a tensor that
fits into it (`Source.region_inside`).
-/

namespace MemoryLease

/-! ### The regions of a memory -/

/-- A buffer states the same region as long as its memory is in its place. -/
theorem Buffer.region_inPlace {b : Buffer} {m m' : Memory} (h : m.InPlace m') :
    b.region m' = b.region m := by
  simp only [region, Memory.length, Memory.lock, h.size, h.poisoned, h.base]

/-- A tensor states the same region as long as its memory is in its place. -/
theorem Tensor.region_inPlace {t : Tensor} {m m' : Memory} (h : m.InPlace m') :
    t.region m' = t.region m := by
  simp only [region, h.item, h.base]

/-- The region of a buffer is well formed and covers the memory from its start to its end. -/
theorem Buffer.region_eq_ok {b : Buffer} {m : Memory} {r : Region} (h : b.region m = .ok r) :
    r.WellFormed ∧ r.base = m.base b.memory ∧ r.length = m.size ∧ r.Inside m.size := by
  unfold region at h
  split at h
  · cases h
  · rename_i length hl
    obtain ⟨plain, hp, rfl⟩ := map_eq_ok_iff.1 h
    obtain ⟨-, -, rfl⟩ := map_eq_ok_iff.1 hl
    obtain ⟨hlen, n, hb, rfl⟩ := Region.strided_eq_ok hp
    have hn : n = m.size := by simpa using (Shape.byteLength?_eq_some hb).1
    refine ⟨⟨hlen, hb, fun _ h => by cases h⟩, rfl, hn, fun index hi => ?_⟩
    cases index with
    | nil => exact hi.elim
    | cons i is =>
      have := hi.1
      simp only [Region.offsetOf, Strides.offsetOf]
      omega

namespace Source

/-- A source of a memory states the same region as long as the memory is in its place. -/
theorem region_inPlace {source : Source} {id : Nat} (of : source.memory? = some id) (s : Store)
    {m m' : Memory} (h : m.InPlace m') : source.region s m' = source.region s m := by
  cases source with
  | buffer b => exact Buffer.region_inPlace h
  | tensor t => exact Tensor.region_inPlace h
  | foreign => cases of

/-- The region that a source of a memory states starts where the memory does, and is for reading
only if the handle is. -/
theorem region_eq_ok {source : Source} {id : Nat} (of : source.memory? = some id) {s : Store}
    {m : Memory} {r : Region} (h : source.region s m = .ok r) :
    r.base = m.base id ∧ r.readOnly = source.isReadOnly := by
  cases source with
  | buffer b =>
    obtain rfl := Option.some.inj of
    refine ⟨(Buffer.region_eq_ok h).2.1, ?_⟩
    simp only [region, Buffer.region] at h
    split at h
    · cases h
    · obtain ⟨plain, -, rfl⟩ := map_eq_ok_iff.1 h
      rfl
  | tensor t =>
    obtain rfl := Option.some.inj of
    refine ⟨(Tensor.region_eq_ok h).2.1, ?_⟩
    obtain ⟨plain, -, rfl⟩ := map_eq_ok_iff.1 h
    rfl
  | foreign => cases of

/-- The items of the region that a source of a memory states lie within the memory. -/
theorem region_inside {source : Source} {id : Nat} (of : source.memory? = some id) {s : Store}
    {m : Memory} {r : Region} (h : source.region s m = .ok r)
    (fits : ∀ t, source = .tensor t → t.Fits m) :
    r.WellFormed ∧ r.base = m.base id ∧ r.Inside m.size := by
  cases source with
  | buffer b =>
    obtain rfl := Option.some.inj of
    obtain ⟨wf, hb, -, hi⟩ := Buffer.region_eq_ok h
    exact ⟨wf, hb, hi⟩
  | tensor t =>
    obtain rfl := Option.some.inj of
    obtain ⟨wf, hb, hi, hs, hst⟩ := Tensor.region_eq_ok h
    refine ⟨wf, hb, fun index hindex => ?_⟩
    rw [Region.offsetOf, hi, hst]
    exact (fits t rfl).within (hs ▸ hindex)
  | foreign => cases of

end Source

/-! ### Acquiring -/

namespace Store

/-- A view of a source is acquired under a contract. -/
structure Acquires (s : Store) (c : Contract) (source : Source) (e : ExportedView) : Prop where
  valid : c.flaw? = none
  grants : s.Grants c source e.lease
  agreed : ∃ r, source.region s (s.lentMemory e.lease) = .ok r ∧ r.negotiate c = .ok e.view

/-- What is lent has been granted, and is the region that the source states. -/
theorem lend_eq_ok {s : Store} {c : Contract} {source : Source} {g : Grant}
    (h : (s.lend c source).result = .ok g) :
    s.Grants c source g.lease ∧ source.region s (s.lentMemory g.lease) = .ok g.region := by
  have hl := lending s c source
  generalize s.lend c source = lent at hl h
  cases hl with
  | readOnly => cases h
  | refused => cases h
  | declined => cases h
  | granted grants region =>
    obtain rfl := Except.ok.inj h
    exact ⟨grants, region⟩
  | lost => cases h

/-- A view that comes of a request is acquired from a source. -/
theorem acquires_of_eq_ok {s : Store} {v : Value} {c : Contract} {e : ExportedView}
    (h : (s.acquire v c).result = .ok e) :
    ∃ source, v = .source source ∧ s.Acquires c source e := by
  obtain ⟨valid, source, g, rfl, hg, hn, hl⟩ := acquire_eq_ok h
  obtain ⟨grants, region⟩ := lend_eq_ok hg
  rw [← hl] at grants region
  exact ⟨source, rfl, valid, grants, _, region, hn⟩

/-- A source of a memory lends a lease of that memory. -/
theorem Acquires.lease_eq {s : Store} {c : Contract} {source : Source} {e : ExportedView}
    {id : Nat} (h : s.Acquires c source e) (of : source.memory? = some id) :
    e.lease = .memory id c.isWritable := by
  have hg := h.grants
  generalize e.lease = l at hg
  cases hg with
  | foreign => cases of
  | owned of' => rw [Option.some.inj (of.symm.trans of')]

/-- A view of a memory is one of the region that its source states. -/
theorem Acquires.owned {s : Store} {c : Contract} {source : Source} {e : ExportedView} {id : Nat}
    {w : Bool} (h : s.Acquires c source e) (hl : e.lease = .memory id w) :
    source.memory? = some id ∧ (s.memory id).poisoned = false ∧
      ∃ r, source.region s (s.memory id) = .ok r ∧ r.negotiate c = .ok e.view := by
  obtain ⟨r, hr, hn⟩ := h.agreed
  have hg := h.grants
  rw [hl] at hg hr
  cases hg with
  | owned of access unpoisoned free =>
    rw [lentMemory, Source.region_inPlace of s (Memory.inPlace_lent _ _)] at hr
    exact ⟨of, unpoisoned, r, hr, hn⟩

end Store
end MemoryLease
