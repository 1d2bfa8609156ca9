import MemoryLease.Acquisition
import MemoryLease.Proofs.Region.Length
import MemoryLease.Proofs.Strides.Contiguity

/-!
# A view finds the items of its region

A view may report other strides than its region has, or none at all, and then foreign code walks
the region by canonical strides or by the numbers of the items.  Either way it finds every item
where the region's own strides put it (`Region.WellFormed.offsetOf_view`): canonical strides are
reported only for a region that is contiguous in their order, and strides are left out only under a
contract that relies on row-major order.
-/

namespace MemoryLease

/-- Where foreign code looks for the item of an index of a shape, counted in bytes from the address:
where the strides say, and without strides where its row-major rank says. -/
def MemoryView.offsetOf (v : MemoryView) (shape index : List Nat) : Int :=
  match v.strides with
  | some strides => Strides.offsetOf strides index
  | none => v.itemSize * Shape.rowRank shape index

/-- Whoever gets strides gets extents. -/
theorem Metadata.extents_le_of_strides_le {m : Metadata} (h : Metadata.strides ≤ m) :
    Metadata.extents ≤ m := by
  rw [Metadata.le_iff_level_le] at h ⊢
  exact Nat.le_trans (by decide) h

namespace Contract

/-- A contract that asks for less than strides relies on row-major order. -/
theorem requiresRowMajor_of_metadata {c : Contract} (h : ¬ Metadata.strides ≤ c.metadata) :
    c.requiresRowMajor = true := by
  have hs : c.has .strides = false := by
    by_contra hs
    rw [Bool.not_eq_false] at hs
    apply h
    simp only [metadata, hs, if_true]
    split <;> decide
  simp [requiresRowMajor, hs]

/-- A contract that names row-major order relies on it. -/
theorem requiresRowMajor_of_contiguity {c : Contract} (h : c.contiguity = .rowMajor) :
    c.requiresRowMajor = true := by
  have hr : c.has .rowMajor = true := by
    by_contra hn
    rw [contiguity, if_neg hn] at h
    split at h
    · cases h
    · split at h <;> cases h
  simp [requiresRowMajor, hr]

end Contract

namespace Region

open Shape (InBounds)

/-- A region whose lists fit together, and whose length is that of its items. -/
structure WellFormed (r : Region) : Prop where
  strides_length : r.strides.length = r.shape.length
  byteLength : Shape.byteLength? r.itemSize r.shape = some r.length
  suboffsets_length : ∀ suboffsets, r.suboffsets = some suboffsets →
    suboffsets.length = r.shape.length

/-! ### The strides that a view reports -/

/-- The canonical strides of a region are those of its shape and its item size. -/
theorem canonicalStrides_eq_ok {r : Region} {order : MemoryOrder} {strides : List Int}
    (h : r.canonicalStrides order = .ok strides) :
    Strides.canonical? order r.itemSize r.shape = some strides := by
  unfold canonicalStrides at h
  split at h
  · rename_i hc
    rw [hc, Except.ok.inj h]
  · cases h

/-- A region whose lists fit together passes both checks that negotiation makes of what a region
states of itself. -/
theorem WellFormed.consistent {r : Region} (hr : r.WellFormed) : r.inconsistency? = none :=
  inconsistency?_eq_none_iff.2 ⟨hr.strides_length, hr.byteLength⟩

/-- Once what a region states fits together, its addressing and its layout are looked at. -/
theorem agreedStrides_of_consistent {r : Region} (consistent : r.inconsistency? = none)
    (c : Contract) :
    r.agreedStrides c =
      if r.suboffsets.isSome && c.metadata != .indirect then .error .indirect
      else if c.requiresRowMajor && !r.isContiguous .rowMajor then .error .notRowMajor
      else r.reportedStrides c.contiguity := by
  simp only [agreedStrides, consistent]

/-- Strides are agreed on only for a region that states what fits together, that is reached as the
contract allows for, and whose layout it allows for. -/
theorem agreedStrides_eq_ok {r : Region} {c : Contract} {strides : List Int}
    (h : r.agreedStrides c = .ok strides) :
    r.inconsistency? = none ∧ (r.suboffsets.isSome = true → c.metadata = .indirect) ∧
      (c.requiresRowMajor = true → r.isContiguous .rowMajor = true) ∧
      r.reportedStrides c.contiguity = .ok strides := by
  cases consistent : r.inconsistency? with
  | some what =>
    rw [agreedStrides, consistent] at h
    cases h
  | none =>
    rw [agreedStrides_of_consistent consistent] at h
    split at h
    · cases h
    · rename_i hs
      split at h
      · cases h
      · rename_i hr
        refine ⟨rfl, fun hi => ?_, fun hc => ?_, h⟩
        · by_contra hm
          exact hs (by simp [hi, hm])
        · by_contra hn
          exact hr (by simp [hc, hn])

/-- A view reports the strides of its region, or the canonical ones of an order in which the region
is contiguous. -/
theorem strides_of_agreedStrides {r : Region} {c : Contract} {strides : List Int}
    (h : r.agreedStrides c = .ok strides) :
    strides = r.strides ∨ ∃ order, r.isContiguous order = true ∧
      Strides.canonical? order r.itemSize r.shape = some strides := by
  obtain ⟨-, -, hr, hs⟩ := agreedStrides_eq_ok h
  cases hc : c.contiguity with
  | unspecified =>
    rw [hc] at hs
    exact .inl (Except.ok.inj hs).symm
  | rowMajor =>
    rw [hc] at hs
    exact .inr ⟨.rowMajor, hr (Contract.requiresRowMajor_of_contiguity hc),
      canonicalStrides_eq_ok hs⟩
  | columnMajor =>
    simp only [hc, reportedStrides] at hs
    split at hs
    · rename_i hf
      exact .inr ⟨.columnMajor, hf, canonicalStrides_eq_ok hs⟩
    · cases hs
  | either =>
    simp only [hc, reportedStrides] at hs
    split at hs
    · rename_i hf
      exact .inr ⟨.rowMajor, hf, canonicalStrides_eq_ok hs⟩
    · split at hs
      · rename_i hf
        exact .inr ⟨.columnMajor, hf, canonicalStrides_eq_ok hs⟩
      · cases hs

/-- A view is agreed on if the region may be written whenever the contract is for writing, and the
strides to report are agreed on. -/
theorem negotiate_eq_ok {r : Region} {c : Contract} {v : MemoryView} (h : r.negotiate c = .ok v) :
    (c.isWritable = true → r.readOnly = false) ∧
      ∃ strides, r.agreedStrides c = .ok strides ∧ v = r.view c strides := by
  unfold negotiate at h
  split at h
  · cases h
  · rename_i hw
    split at h
    · cases h
    · rename_i strides hs
      refine ⟨fun hc => ?_, strides, hs, (Except.ok.inj h).symm⟩
      by_contra hn
      exact hw (by simp [hc, hn])

/-- A view tells the item size of its region. -/
theorem itemSize_of_negotiate {r : Region} {c : Contract} {v : MemoryView}
    (h : r.negotiate c = .ok v) : v.itemSize = r.itemSize := by
  obtain ⟨-, strides, -, rfl⟩ := negotiate_eq_ok h
  rfl

/-- A view starts where its region does. -/
theorem address_of_negotiate {r : Region} {c : Contract} {v : MemoryView}
    (h : r.negotiate c = .ok v) : v.address = r.base := by
  obtain ⟨-, strides, -, rfl⟩ := negotiate_eq_ok h
  rfl

/-- A view is for reading only exactly if its region is, whatever the contract asks for. -/
theorem readOnly_of_negotiate {r : Region} {c : Contract} {v : MemoryView}
    (h : r.negotiate c = .ok v) : v.readOnly = r.readOnly := by
  obtain ⟨-, strides, -, rfl⟩ := negotiate_eq_ok h
  rfl

/-- A view is as long as its region. -/
theorem length_of_negotiate {r : Region} {c : Contract} {v : MemoryView}
    (h : r.negotiate c = .ok v) : v.length = r.length := by
  obtain ⟨-, strides, -, rfl⟩ := negotiate_eq_ok h
  rfl

/-- A view has the dimensions of its region, also where it leaves out the extents. -/
theorem dimensions_of_negotiate {r : Region} {c : Contract} {v : MemoryView}
    (h : r.negotiate c = .ok v) : v.dimensions = r.shape.length := by
  obtain ⟨-, strides, -, rfl⟩ := negotiate_eq_ok h
  rfl

/-- The extents that a view tells are those of its region. -/
theorem shape_of_negotiate {r : Region} {c : Contract} {v : MemoryView}
    (h : r.negotiate c = .ok v) {shape : List Nat} (hv : v.shape = some shape) :
    shape = r.shape := by
  obtain ⟨-, agreed, -, rfl⟩ := negotiate_eq_ok h
  simp only [view] at hv
  split at hv
  · exact (Option.some.inj hv).symm
  · cases hv

namespace WellFormed

variable {r : Region} {c : Contract} {v : MemoryView}

/-- The length of a well-formed region is that of its items. -/
theorem length_eq (hr : r.WellFormed) : r.length = r.shape.prod * r.itemSize :=
  (Shape.byteLength?_eq_some hr.byteLength).1

/-- In a region without gaps, an item lies as many item sizes from the start as there are items
before it. -/
theorem offsetOf_of_isContiguous (hr : r.WellFormed) {order : MemoryOrder}
    (h : r.isContiguous order = true) {index : List Nat} (hb : InBounds r.shape index) :
    r.offsetOf index = r.itemSize * order.rank r.shape index := by
  rw [Region.isContiguous, Bool.and_eq_true] at h
  exact Strides.offsetOf_of_isContiguous h.2 hr.strides_length hb

/-- **What a view leaves out can be told from the rest.**  Foreign code that has nothing but the
view finds every item of the region where the region's own strides put it. -/
theorem offsetOf_view (hr : r.WellFormed) (h : r.negotiate c = .ok v) {index : List Nat}
    (hb : InBounds r.shape index) : v.offsetOf r.shape index = r.offsetOf index := by
  obtain ⟨-, strides, hs, rfl⟩ := negotiate_eq_ok h
  by_cases hm : Metadata.strides ≤ c.metadata
  · simp only [MemoryView.offsetOf, view, if_pos hm]
    rcases strides_of_agreedStrides hs with rfl | ⟨order, ho, hc⟩
    · rfl
    · rw [hr.offsetOf_of_isContiguous ho hb, Strides.offsetOf_of_canonical? hc hb.length_eq]
  · have hq := (agreedStrides_eq_ok hs).2.2.1 (Contract.requiresRowMajor_of_metadata hm)
    simp only [MemoryView.offsetOf, view, if_neg hm]
    rw [hr.offsetOf_of_isContiguous hq hb]
    rfl

/-- A view that tells strides tells extents, and one stride for each. -/
theorem length_strides_view (hr : r.WellFormed) (h : r.negotiate c = .ok v) {strides : List Int}
    (hv : v.strides = some strides) :
    v.shape = some r.shape ∧ strides.length = r.shape.length := by
  obtain ⟨-, agreed, hs, rfl⟩ := negotiate_eq_ok h
  simp only [view] at hv ⊢
  split at hv
  · rename_i hm
    obtain rfl := Option.some.inj hv
    refine ⟨if_pos (Metadata.extents_le_of_strides_le hm), ?_⟩
    rcases strides_of_agreedStrides hs with rfl | ⟨order, -, hc⟩
    · exact hr.strides_length
    · exact Strides.length_canonical? hc
  · cases hv

/-- Foreign code visits the items of a region in lexicographic order. -/
theorem itemOffsets_view (hr : r.WellFormed) (h : r.negotiate c = .ok v) (hp : 0 < r.itemSize) :
    v.itemOffsets = (Shape.enumerate r.shape).map r.offsetOf := by
  have hf : ∀ index ∈ Shape.enumerate r.shape, v.offsetOf r.shape index = r.offsetOf index :=
    fun index hm => hr.offsetOf_view h (Shape.mem_enumerate_iff.1 hm)
  rw [← List.map_congr_left hf]
  cases hs : v.strides with
  | some strides =>
    have hsh := (hr.length_strides_view h hs).1
    have hoff : v.offsetOf r.shape = Strides.offsetOf strides := by
      funext index
      simp only [MemoryView.offsetOf, hs]
    simp only [MemoryView.itemOffsets, hsh, hs, Shape.indexes_eq_enumerate, hoff]
  | none =>
    obtain ⟨-, agreed, -, rfl⟩ := negotiate_eq_ok h
    have hl : r.length / r.itemSize = r.shape.prod := by
      rw [hr.length_eq, Nat.mul_div_cancel _ hp]
    have hi : (r.view c agreed).itemOffsets =
        (List.range (r.length / r.itemSize)).map fun k => ((k * r.itemSize : Nat) : Int) := by
      simp only [MemoryView.itemOffsets, hs]
      cases (r.view c agreed).shape <;> rfl
    rw [hi, hl, ← Shape.map_rowRank_enumerate, List.map_map]
    apply List.map_congr_left
    intro index _
    simp only [MemoryView.offsetOf, hs, Function.comp_apply]
    rw [Nat.mul_comm]
    push_cast
    rfl

/-- A view that tells suboffsets tells one for each extent. -/
theorem length_suboffsets_view (hr : r.WellFormed) (h : r.negotiate c = .ok v)
    {suboffsets : List Int} (hv : v.suboffsets = some suboffsets) :
    suboffsets.length = r.shape.length := by
  obtain ⟨-, agreed, -, rfl⟩ := negotiate_eq_ok h
  simp only [view] at hv
  split at hv
  · exact hr.suboffsets_length suboffsets hv
  · cases hv

end WellFormed

/-! ### Described regions -/

/-- The bytes that one item of an extent takes. -/
def Extent.itemSize : Extent → Nat
  | .bytes _ => 1
  | .items itemSize _ _ => itemSize

/-- The extent of each dimension. -/
def Extent.shape : Extent → List Nat
  | .bytes length => [length]
  | .items _ shape _ => shape

/-- The byte stride of each dimension. -/
def Extent.strides : Extent → List Int
  | .bytes _ => [1]
  | .items _ _ strides => strides

namespace Description

/-- A description without strides of its own states the region that its canonical strides state. -/
theorem plain_eq_strided (base : Address) (x : Extent) :
    plain base x = strided base x.itemSize x.shape x.strides := by
  cases x <;> rfl

/-- A described region has the item size, the extents and the strides of its description. -/
theorem region_eq_ok {d : Description} {r : Region} (h : d.region = .ok r) :
    r.WellFormed ∧ r.base = d.base ∧ r.itemSize = d.extent.itemSize ∧
      r.shape = d.extent.shape ∧ r.strides = d.extent.strides := by
  unfold region at h
  split at h
  · cases h
  · rename_i plainRegion hp
    rw [plain_eq_strided] at hp
    obtain ⟨hl, length, hb, rfl⟩ := strided_eq_ok hp
    cases hs : d.suboffsets with
    | none =>
      rw [hs] at h
      obtain rfl := Except.ok.inj h
      exact ⟨⟨hl, hb, fun _ h => by cases h⟩, rfl, rfl, rfl, rfl⟩
    | some suboffsets =>
      simp only [hs, withSuboffsets] at h
      split at h
      · cases h
      · rename_i hc
        obtain rfl := Except.ok.inj h
        refine ⟨⟨hl, hb, fun given hg => ?_⟩, rfl, rfl, rfl, rfl⟩
        rw [← Option.some.inj hg]
        exact not_not.1 hc

end Description
end Region

namespace Store

/-- What is settled on is a view of the region, with the lease of it. -/
theorem settle_eq_ok {s : Store} {c : Contract} {g : Grant} {e : ExportedView}
    (h : (s.settle c g).result = .ok e) :
    g.region.negotiate c = .ok e.view ∧ e.lease = g.lease := by
  unfold settle at h
  split at h
  · rename_i view hv
    obtain rfl := Except.ok.inj h
    exact ⟨hv, rfl⟩
  · dsimp only at h
    split at h <;> cases h

/-- A view is acquired under a contract that does not contradict itself, from a source that lends a
region that meets it. -/
theorem acquire_eq_ok {s : Store} {value : Value} {c : Contract} {e : ExportedView}
    (h : (s.acquire value c).result = .ok e) :
    c.flaw? = none ∧ ∃ source g, value = .source source ∧ (s.lend c source).result = .ok g ∧
      g.region.negotiate c = .ok e.view ∧ e.lease = g.lease := by
  unfold acquire at h
  split at h
  · cases h
  · rename_i hf
    split at h
    · cases h
    · rename_i source
      dsimp only at h
      split at h
      · cases h
      · rename_i g hg
        exact ⟨hf, source, g, rfl, hg, settle_eq_ok h⟩

/-- A foreign source lends the region that it describes. -/
theorem lendForeign_eq_ok {s : Store} {id : Nat} {c : Contract} {g : Grant}
    (h : (s.lendForeign id c).result = .ok g) :
    (s.foreign id).description.region = .ok g.region := by
  simp only [lendForeign] at h
  split at h
  · cases h
  · split at h
    · cases h
    · rename_i r hr
      obtain rfl := Except.ok.inj h
      exact hr

/-- **A view finds the items of its source.**  Whatever layout a source states, and whatever
contract a view of it is acquired under: the view has the length of all items, its lists have one
entry for each extent, and it finds the item of every index where the strides of the source put
it. -/
theorem acquired_view_finds_items {s : Store} {id : Nat} {c : Contract} {e : ExportedView}
    (h : (s.acquire (.source (.foreign id)) c).result = .ok e) :
    let d := (s.foreign id).description
    let v := e.view
    (∀ index, Shape.InBounds d.extent.shape index →
      v.offsetOf d.extent.shape index = Strides.offsetOf d.extent.strides index) ∧
    v.address = d.base ∧ v.itemSize = d.extent.itemSize ∧
    v.length = d.extent.shape.prod * d.extent.itemSize ∧
    v.dimensions = d.extent.shape.length ∧
    (∀ shape, v.shape = some shape → shape = d.extent.shape) ∧
    (∀ strides, v.strides = some strides →
      v.shape = some d.extent.shape ∧ strides.length = d.extent.shape.length) ∧
    (∀ suboffsets, v.suboffsets = some suboffsets →
      suboffsets.length = d.extent.shape.length) := by
  obtain ⟨-, source, g, hs, hg, hv, -⟩ := acquire_eq_ok h
  obtain rfl : Source.foreign id = source := Value.source.inj hs
  obtain ⟨hr, hb, hi, hsh, hst⟩ := Region.Description.region_eq_ok (lendForeign_eq_ok hg)
  simp only [← hb, ← hi, ← hsh, ← hst]
  refine ⟨fun _ => hr.offsetOf_view hv, Region.address_of_negotiate hv,
    Region.itemSize_of_negotiate hv, ?_, Region.dimensions_of_negotiate hv,
    fun _ => Region.shape_of_negotiate hv, fun _ => hr.length_strides_view hv,
    fun _ => hr.length_suboffsets_view hv⟩
  rw [Region.length_of_negotiate hv, hr.length_eq]

/-- A dimension of extent one may have any stride: under a contract for row-major order the view
reports another one, and finds the same items. -/
theorem acquired_view_finds_items_unit_extent :
    ∃ e, (({ foreigns := [{
        description := { base := .fixed 4096, extent := .items 8 [1, 3] [-7, 8] }
        refusal := none }] } : Store).acquire (.source (.foreign 0))
          (.ofFlags [.rowMajor, .strides, .extents])).result = .ok e ∧
      e.view.strides = some [24, 8] ∧ e.view.offsetOf [1, 3] [0, 2] = 16 := by
  have h : (({ foreigns := [{
      description := { base := .fixed 4096, extent := .items 8 [1, 3] [-7, 8] }
      refusal := none }] } : Store).acquire (.source (.foreign 0))
        (.ofFlags [.rowMajor, .strides, .extents])).result =
      .ok ⟨⟨.fixed 4096, 24, 8, 2, false, none, some [1, 3], some [24, 8], none⟩,
        .foreign 0 0⟩ := by
    rfl
  exact ⟨_, h, rfl, ((acquired_view_finds_items h).1 [0, 2] (by decide)).trans (by decide)⟩

end Store
end MemoryLease
