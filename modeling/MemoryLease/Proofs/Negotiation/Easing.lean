import Mathlib.Logic.Relation
import MemoryLease.Proofs.Negotiation.Decision

/-!
# Asking for less

A caller that asks for less gets a view wherever it got one before.  What is less is not told by the
number of flags: a contract without strides relies on row-major order, so to ask for strides is to
ask for less, and a caller that asks for suboffsets as well can be given indirect memory too.  A
contract is eased step by step (`Contract.Eases`), and every step leaves the demands on the layout
as they are or lifts some (`Contract.Demands`).  Where the contract that is eased is met, so is the
one that comes of it, and the two views find every item at the same place
(`Region.negotiate_eased`).
-/

namespace MemoryLease

/-- The flags that ask for shape metadata. -/
def Flag.shapes : List Flag := [extents, strides, suboffsets]

/-- The highest level is the only one that includes it. -/
theorem Metadata.eq_indirect_of_le {m : Metadata} (h : .indirect ≤ m) : m = .indirect := by
  revert h
  cases m <;> decide

namespace Contract

variable {c c' c'' : Contract}

/-- Two contracts differ at most in some flags. -/
def SameBut (flags : List Flag) (c c' : Contract) : Prop :=
  ∀ f, f ∉ flags → c'.has f = c.has f

instance (flags : List Flag) (c c' : Contract) : Decidable (SameBut flags c c') :=
  decidable_of_iff (∀ f ∈ Flag.all, f ∉ flags → c'.has f = c.has f)
    ⟨fun h f => h f f.mem_all, fun h f _ => h f⟩

/-- A flag that may not differ is there in both contracts or in neither. -/
theorem SameBut.iff {flags : List Flag} (h : SameBut flags c c') {f : Flag} (hf : f ∉ flags) :
    c'.has f = true ↔ c.has f = true := by
  rw [h f hf]

/-- A contract is eased in one respect. -/
inductive Eases (c c' : Contract) : Prop
  /-- It is not for writing any more. -/
  | reading (clears : c'.has .writable = false) (rest : SameBut [.writable] c c')
  /-- It asks for the format, or does not ask for it any more. -/
  | format (rest : SameBut [.format] c c')
  /-- It asks for more shape metadata, and for the same order. -/
  | metadata (raises : c.metadata ≤ c'.metadata) (rest : SameBut Flag.shapes c c')
  /-- It does not ask for an order any more, but still for the same shape metadata. -/
  | order (drops : ∀ f ∈ Flag.orders, c'.has f = false) (rest : SameBut Flag.orders c c')

/-- A contract is eased by any number of steps, each of which leaves a contract without a flaw. -/
def EasesTo : Contract → Contract → Prop :=
  Relation.ReflTransGen fun c c' => c'.flaw? = none ∧ c.Eases c'

/-- What a contract demands of a region is demanded by another one as well. -/
structure Demands (c c' : Contract) : Prop where
  writable : c'.has .writable = true → c.has .writable = true
  suboffsets : c.has .suboffsets = true → c'.has .suboffsets = true
  strides : c.has .strides = true → c'.has .strides = true
  orders : ∀ f ∈ Flag.orders, c'.has f = true → c.has f = true

theorem Demands.refl (c : Contract) : c.Demands c := ⟨id, id, id, fun _ _ => id⟩

/-- Demanding at least as much carries over from one contract to the next. -/
theorem Demands.trans (h : c.Demands c') (h' : c'.Demands c'') : c.Demands c'' where
  writable := h.writable ∘ h'.writable
  suboffsets := h'.suboffsets ∘ h.suboffsets
  strides := h'.strides ∘ h.strides
  orders := fun f hf => h.orders f hf ∘ h'.orders f hf

/-- **A step demands no more.** -/
theorem Eases.demands (h : c.Eases c') (hc : c.Consistent) (hc' : c'.Consistent) :
    c.Demands c' := by
  cases h with
  | reading clears rest =>
    have apart : ∀ f ∈ Flag.orders, f ∉ [Flag.writable] := by decide
    refine ⟨?_, (rest.iff (by decide)).2, (rest.iff (by decide)).2,
      fun f hf => (rest.iff (apart f hf)).1⟩
    rw [clears]
    exact nofun
  | format rest =>
    have apart : ∀ f ∈ Flag.orders, f ∉ [Flag.format] := by decide
    exact ⟨(rest.iff (by decide)).1, (rest.iff (by decide)).2, (rest.iff (by decide)).2,
      fun f hf => (rest.iff (apart f hf)).1⟩
  | metadata raises rest =>
    have apart : ∀ f ∈ Flag.orders, f ∉ Flag.shapes := by decide
    refine ⟨(rest.iff (by decide)).1, fun indirect => ?_, fun strides => ?_,
      fun f hf => (rest.iff (apart f hf)).1⟩
    · rw [← metadata_eq_indirect_iff] at indirect ⊢
      exact Metadata.eq_indirect_of_le (indirect ▸ raises)
    · rw [← hc.strides_le_metadata_iff] at strides
      rw [← hc'.strides_le_metadata_iff]
      exact Nat.le_trans strides raises
  | order drops rest =>
    refine ⟨(rest.iff (by decide)).1, (rest.iff (by decide)).2, (rest.iff (by decide)).2,
      fun f hf asked => ?_⟩
    rw [drops f hf] at asked
    cases asked

/-- **Steps demand no more**, however many they are. -/
theorem EasesTo.demands (h : c.EasesTo c') (valid : c.flaw? = none) :
    c'.flaw? = none ∧ c.Demands c' := by
  induction h with
  | refl => exact ⟨valid, .refl c⟩
  | tail _ step ih =>
    obtain ⟨before, demands⟩ := ih
    have last := step.2.demands (flaw?_eq_none_iff.1 before) (flaw?_eq_none_iff.1 step.1)
    exact ⟨step.1, demands.trans last⟩

end Contract

namespace Region

open Shape (InBounds)

variable {r : Region} {c c' : Contract}

/-! ### Easier contracts are met -/

/-- A region reports the strides of an order under the stricter contract if it does under the easier
one. -/
theorem Reports.of_demands {order : MemoryOrder} (h : r.Reports c' order) (hd : c.Demands c') :
    r.Reports c order := by
  have either := hd.orders .anyOrder (by decide)
  cases order with
  | rowMajor => exact h.imp (hd.orders _ (by decide)) (And.imp_left either)
  | columnMajor => exact h.imp (hd.orders _ (by decide)) (And.imp_left either)

/-- A layout that meets a contract meets every one that demands no more. -/
theorem Meets.of_demands (h : r.Meets c) (hd : c.Demands c') : r.Meets c' where
  direct := h.direct.imp_right hd.suboffsets
  rowMajor := by
    rintro (no_strides | row)
    · refine h.rowMajor (.inl ?_)
      by_contra strides
      rw [hd.strides (by simpa using strides)] at no_strides
      cases no_strides
    · exact h.rowMajor (.inr (hd.orders _ (by decide) row))
  columnMajor := h.columnMajor ∘ hd.orders _ (by decide)
  anyOrder := h.anyOrder ∘ hd.orders _ (by decide)
  strides := fun order reports => h.strides order (reports.of_demands hd)

/-- There is a view of a region under a contract if writing is no obstacle and the layout meets the
contract. -/
theorem WellFormed.exists_view_iff (hr : r.WellFormed) (hc : c.Consistent) :
    (∃ v, r.negotiate c = .ok v) ↔
      ¬ (c.has .writable = true ∧ r.readOnly = true) ∧ r.Meets c := by
  rw [← hr.exists_agreedStrides_iff hc]
  constructor
  · rintro ⟨v, hv⟩
    obtain ⟨-, strides, agreed, -⟩ := negotiate_eq_ok hv
    exact ⟨access_of_negotiate hv, strides, agreed⟩
  · rintro ⟨access, strides, agreed⟩
    exact ⟨_, negotiate_of_agreedStrides access agreed⟩

/-- **Who asks for less gets the same.**  If there is a view of a region under a contract, there is
one under every contract that comes of easing it, and it has the address, the length, the item size,
the dimensions and the access of the first one.  Foreign code finds every item at the same place
through both, whatever strides each of them reports or leaves out. -/
theorem negotiate_eased {d : Description} (built : d.region = .ok r) (valid : c.flaw? = none)
    (eased : c.EasesTo c') {v : MemoryView} (met : r.negotiate c = .ok v) :
    ∃ v', r.negotiate c' = .ok v' ∧ v'.address = v.address ∧ v'.length = v.length ∧
      v'.itemSize = v.itemSize ∧ v'.dimensions = v.dimensions ∧ v'.readOnly = v.readOnly ∧
      ∀ index, InBounds r.shape index →
        v'.offsetOf r.shape index = v.offsetOf r.shape index := by
  have hr : r.WellFormed := (Description.region_eq_ok built).1
  have hc : c.Consistent := Contract.flaw?_eq_none_iff.1 valid
  obtain ⟨valid', demands⟩ := eased.demands valid
  have hc' : c'.Consistent := Contract.flaw?_eq_none_iff.1 valid'
  obtain ⟨access, meets⟩ := (hr.exists_view_iff hc).1 ⟨v, met⟩
  have access' : ¬ (c'.has .writable = true ∧ r.readOnly = true) :=
    fun ⟨writable, readOnly⟩ => access ⟨demands.writable writable, readOnly⟩
  obtain ⟨v', met'⟩ := (hr.exists_view_iff hc').2 ⟨access', meets.of_demands demands⟩
  refine ⟨v', met', ?_, ?_, ?_, ?_, ?_, fun index hb => ?_⟩
  · rw [address_of_negotiate met', address_of_negotiate met]
  · rw [length_of_negotiate met', length_of_negotiate met]
  · rw [itemSize_of_negotiate met', itemSize_of_negotiate met]
  · rw [dimensions_of_negotiate met', dimensions_of_negotiate met]
  · rw [readOnly_of_negotiate met', readOnly_of_negotiate met]
  · rw [hr.offsetOf_view met' hb, hr.offsetOf_view met hb]

/-- A contract for writing in column-major order is eased to one for reading, without an order and
with suboffsets.  The first view reports canonical strides, and the last one those of the region. -/
theorem negotiate_eased_column_major :
    let column : Contract := .ofFlags [.columnMajor, .strides, .extents, .writable]
    let strided : Contract := .ofFlags [.strides, .extents, .writable]
    let reading : Contract := .ofFlags [.strides, .extents]
    let indirect : Contract := .ofFlags [.suboffsets, .strides, .extents]
    let d : Description := { base := .fixed 4096, extent := .items 8 [3, 1] [8, -7] }
    column.EasesTo indirect ∧ ∃ r v v', d.region = .ok r ∧ column.Eases strided ∧
      strided.Eases reading ∧ reading.Eases indirect ∧ r.negotiate column = .ok v ∧
      r.negotiate indirect = .ok v' ∧ v.strides = some [8, 24] ∧ v'.strides = some [8, -7] ∧
      v'.offsetOf [3, 1] [2, 0] = v.offsetOf [3, 1] [2, 0] := by
  have dropped : Contract.Eases (.ofFlags [.columnMajor, .strides, .extents, .writable])
      (.ofFlags [.strides, .extents, .writable]) := .order (by decide) (by decide)
  have cleared : Contract.Eases (.ofFlags [.strides, .extents, .writable])
      (.ofFlags [.strides, .extents]) := .reading (by decide) (by decide)
  have raised : Contract.Eases (.ofFlags [.strides, .extents])
      (.ofFlags [.suboffsets, .strides, .extents]) := .metadata (by decide) (by decide)
  have eased : Contract.EasesTo (.ofFlags [.columnMajor, .strides, .extents, .writable])
      (.ofFlags [.suboffsets, .strides, .extents]) :=
    ((Relation.ReflTransGen.single ⟨by decide, dropped⟩).tail ⟨by decide, cleared⟩).tail
      ⟨by decide, raised⟩
  have built : Description.region ⟨.fixed 4096, .items 8 [3, 1] [8, -7], false, none, none⟩ =
      .ok ⟨.fixed 4096, 24, 8, false, "B", [3, 1], [8, -7], none⟩ := by rfl
  have met : Region.negotiate ⟨.fixed 4096, 24, 8, false, "B", [3, 1], [8, -7], none⟩
      (.ofFlags [.columnMajor, .strides, .extents, .writable]) =
        .ok ⟨.fixed 4096, 24, 8, 2, false, none, some [3, 1], some [8, 24], none⟩ := by rfl
  obtain ⟨v', met', -, -, -, -, -, same⟩ := negotiate_eased built (by decide) eased met
  cases met'.symm.trans (show _ = Except.ok (MemoryView.mk (.fixed 4096) 24 8 2 false none
    (some [3, 1]) (some [8, -7]) none) by rfl)
  exact ⟨eased, _, _, _, built, dropped, cleared, raised, met, met', rfl, rfl,
    same [2, 0] (by decide)⟩

end Region
end MemoryLease
