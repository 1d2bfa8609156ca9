import MemoryLease.Proofs.Negotiation.Decision

/-!
# Asking for either order

A contract that asks for an order is met by a region that is packed in the order whose strides are
reported and whose strides in this order are offsets (`WellFormed.negotiate_of_order`).  Where
either order will do, the order is chosen by the region alone: it is row-major order if the region
is packed in it, and only otherwise column-major order.  Whether the strides of the chosen order
exist is asked afterwards.  So either order is met by the regions that meet one of the two orders,
but for those that are packed in row-major order without having strides in it
(`negotiate_either_order`). Some of these have strides in column-major order all the same
(`either_order_refused_without_items`).
-/

namespace MemoryLease

/-- The flag that asks for an order. -/
def MemoryOrder.flag : MemoryOrder → Flag
  | .rowMajor => .rowMajor
  | .columnMajor => .columnMajor

/-- The flag of an order is one of the flags that stand for orders. -/
theorem MemoryOrder.flag_mem_orders (order : MemoryOrder) : order.flag ∈ Flag.orders := by
  cases order <;> decide

namespace Contract

variable {c : Contract} {f g : Flag}

/-- The contract that asks for an order as well, and for the strides that belong to it. -/
def withOrder (c : Contract) (f : Flag) : Contract := c.union (.ofFlags [f, .strides, .extents])

/-- A contract for strides gets no flag but the one for the order. -/
theorem has_withOrder (hc : c.Consistent) (strides : c.has .strides = true) (f g : Flag) :
    (c.withOrder f).has g = (c.has g || decide (g = f)) := by
  rw [withOrder, has_union, has_ofFlags]
  have extents := hc.extents_of_strides strides
  cases g <;> simp [strides, extents]

/-- A union has no bit that stands for nothing if neither contract has one. -/
theorem unknownBits_union {d : Contract} (hc : c.unknownBits = 0) (hd : d.unknownBits = 0) :
    (c.union d).unknownBits = 0 := by
  unfold unknownBits union at *
  have split : (c.bits ||| d.bits) &&& ~~~(ofFlags Flag.all).bits =
      (c.bits &&& ~~~(ofFlags Flag.all).bits) ||| (d.bits &&& ~~~(ofFlags Flag.all).bits) := by
    ext i hi
    simp [Bool.and_or_distrib_right]
  rw [split, hc, hd]
  rfl

/-- A contract for strides and for no order can ask for any one order as well. -/
theorem Consistent.withOrder (hc : c.Consistent) (strides : c.has .strides = true)
    (unordered : ∀ f ∈ Flag.orders, c.has f = false) (hf : f ∈ Flag.orders) :
    (c.withOrder f).Consistent := by
  have told := has_withOrder hc strides f
  have still : (c.withOrder f).has .strides = true := by simp [told, strides]
  have only : ∀ g ∈ Flag.orders, (c.withOrder f).has g = true → g = f := fun g hg asked => by
    simpa [told, unordered g hg] using asked
  refine ⟨?_, fun _ => ?_, fun _ => still, fun _ _ _ => still, fun g hg k hk ag ak => ?_⟩
  · refine unknownBits_union hc.known ?_
    revert hf
    cases f <;> decide
  · simp [told, hc.extents_of_strides strides]
  · rw [only g hg ag, only k hk ak]

/-- Asking for an order changes no level of metadata, once strides are asked for. -/
theorem metadata_withOrder (hc : c.Consistent) (strides : c.has .strides = true)
    (hf : f ∈ Flag.orders) : (c.withOrder f).metadata = c.metadata := by
  have told := has_withOrder hc strides f
  have apart : Flag.suboffsets ≠ f := by
    rintro rfl
    exact absurd hf (by decide)
  simp [metadata, told, strides, apart]

end Contract

namespace Region

variable {r : Region} {c : Contract} {f : Flag} {v : MemoryView}

/-- **A contract that asks for an order** is met by a region that is packed in the order whose
strides are reported, if it has these. -/
theorem WellFormed.negotiate_of_order (hr : r.WellFormed) (hc : c.Consistent)
    (asked : ¬ ∀ f ∈ Flag.orders, c.has f = false) :
    r.negotiate c = .ok v ↔ ¬ (c.has .writable = true ∧ r.readOnly = true) ∧
      ∃ order, r.Reports c order ∧ r.Packed order ∧ order.HasStrides r.itemSize r.shape ∧
        v = r.view c (order.strides r.itemSize r.shape) := by
  constructor
  · intro h
    obtain ⟨-, strides, agreed, rfl⟩ := negotiate_eq_ok h
    obtain ⟨-, row, reported⟩ := hr.agreedStrides_eq_ok_iff.1 agreed
    obtain ⟨column, either, told⟩ := (hr.reportedStrides_eq_ok_iff hc).1 reported
    rcases told with ⟨none, -⟩ | ⟨order, reports, has, rfl⟩
    · exact absurd none asked
    · refine ⟨access_of_negotiate h, order, reports, ?_, has, rfl⟩
      cases order with
      | rowMajor =>
        rcases reports with asks | ⟨-, packed⟩
        · exact row (.inr asks)
        · exact packed
      | columnMajor =>
        rcases reports with asks | ⟨asks, gaps⟩
        · exact column asks
        · exact (either asks).resolve_left gaps
  · rintro ⟨access, order, reports, packed, has, rfl⟩
    have same : ∀ {other}, r.Reports c other → r.Packed other :=
      fun reports' => Reports.unique hc reports reports' ▸ packed
    refine negotiate_of_agreedStrides access (hr.agreedStrides_eq_ok_iff.2
      ⟨.inl packed.1, ?_, (hr.reportedStrides_eq_ok_iff hc).2 ⟨fun asks => same (.inl asks),
        fun _ => MemoryOrder.exists_iff.1 ⟨order, packed⟩, .inr ⟨order, reports, has, rfl⟩⟩⟩)
    rintro (none | asks)
    · rw [reports.strides hc] at none
      cases none
    · exact same (.inl asks)

section EitherOrder

variable (hr : r.WellFormed) (hc : c.Consistent) (strides : c.has .strides = true)
  (unordered : ∀ f ∈ Flag.orders, c.has f = false)
include hr hc strides unordered

/-- A contract that asks for an order as well gives the views of the contract with other strides. -/
theorem negotiate_withOrder (hf : f ∈ Flag.orders) :
    r.negotiate (c.withOrder f) = .ok v ↔ ¬ (c.has .writable = true ∧ r.readOnly = true) ∧
      ∃ order, r.Reports (c.withOrder f) order ∧ r.Packed order ∧
        order.HasStrides r.itemSize r.shape ∧
        v = r.view c (order.strides r.itemSize r.shape) := by
  have told := Contract.has_withOrder hc strides f
  have asked : ¬ ∀ g ∈ Flag.orders, (c.withOrder f).has g = false := fun none => by
    simpa [told] using none f hf
  have apart : Flag.writable ≠ f ∧ Flag.format ≠ f := by
    constructor <;> rintro rfl <;> exact absurd hf (by decide)
  have wants : (c.withOrder f).wantsFormat = c.wantsFormat := by
    simp [Contract.wantsFormat, told, apart.2]
  have viewed : ∀ given, r.view (c.withOrder f) given = r.view c given := fun given => by
    simp only [view, wants, Contract.metadata_withOrder hc strides hf]
  rw [hr.negotiate_of_order (hc.withOrder strides unordered hf) asked]
  simp [viewed, told, apart.1]

/-- **One order** gives a view of a region that is packed in it and has strides in it. -/
theorem negotiate_one_order (order : MemoryOrder) :
    r.negotiate (c.withOrder order.flag) = .ok v ↔
      ¬ (c.has .writable = true ∧ r.readOnly = true) ∧ r.Packed order ∧
        order.HasStrides r.itemSize r.shape ∧
        v = r.view c (order.strides r.itemSize r.shape) := by
  have row := unordered .rowMajor (by decide)
  have column := unordered .columnMajor (by decide)
  have either := unordered .anyOrder (by decide)
  have reports : ∀ other, r.Reports (c.withOrder order.flag) other ↔ other = order := by
    intro other
    cases order <;> cases other <;>
      simp [Reports, MemoryOrder.flag, Contract.has_withOrder hc strides, row, column, either]
  rw [negotiate_withOrder hr hc strides unordered order.flag_mem_orders]
  simp only [reports, exists_eq_left]

/-- **Either order** gives the view of row-major order, and that of column-major order only for a
region that is not packed in row-major order. -/
theorem negotiate_either_iff :
    r.negotiate (c.withOrder .anyOrder) = .ok v ↔
      r.negotiate (c.withOrder .rowMajor) = .ok v ∨
        ¬ r.Packed .rowMajor ∧ r.negotiate (c.withOrder .columnMajor) = .ok v := by
  have none_row := unordered .rowMajor (by decide)
  have none_column := unordered .columnMajor (by decide)
  have reports_row : r.Reports (c.withOrder .anyOrder) .rowMajor ↔ r.Packed .rowMajor := by
    simp [Reports, Contract.has_withOrder hc strides, none_row]
  have reports_column :
      r.Reports (c.withOrder .anyOrder) .columnMajor ↔ ¬ r.Packed .rowMajor := by
    simp [Reports, Contract.has_withOrder hc strides, none_column]
  have one := @negotiate_one_order r c v hr hc strides unordered
  rw [negotiate_withOrder hr hc strides unordered (by decide), MemoryOrder.exists_iff,
    reports_row, reports_column]
  constructor
  · rintro ⟨access, ⟨-, told⟩ | ⟨gaps, told⟩⟩
    · exact .inl ((one .rowMajor).2 ⟨access, told⟩)
    · exact .inr ⟨gaps, (one .columnMajor).2 ⟨access, told⟩⟩
  · rintro (row | ⟨gaps, column⟩)
    · obtain ⟨access, told⟩ := (one .rowMajor).1 row
      exact ⟨access, .inl ⟨told.1, told⟩⟩
    · obtain ⟨access, told⟩ := (one .columnMajor).1 column
      exact ⟨access, .inr ⟨gaps, told⟩⟩

end EitherOrder

/-- **Either order is met where one of the two is**, but for a region that is packed in row-major
order and has no strides in it, which is refused even if it has strides in column-major order.  The
view is the one of row-major order if there is one, and that of column-major order if not. -/
theorem negotiate_either_order {d : Description} (built : d.region = .ok r)
    (valid : c.flaw? = none) (strides : c.has .strides = true)
    (unordered : ∀ f ∈ Flag.orders, c.has f = false) :
    ((∃ v, r.negotiate (c.withOrder .anyOrder) = .ok v) ↔
      ((∃ v, r.negotiate (c.withOrder .rowMajor) = .ok v) ∨
        ∃ v, r.negotiate (c.withOrder .columnMajor) = .ok v) ∧
      ¬ (r.Packed .rowMajor ∧ ¬ MemoryOrder.rowMajor.HasStrides r.itemSize r.shape)) ∧
    ∀ v, r.negotiate (c.withOrder .anyOrder) = .ok v →
      r.negotiate (c.withOrder .rowMajor) = .ok v ∨
        (¬ ∃ v', r.negotiate (c.withOrder .rowMajor) = .ok v') ∧
          r.negotiate (c.withOrder .columnMajor) = .ok v := by
  have hr : r.WellFormed := (Description.region_eq_ok built).1
  have hc : c.Consistent := Contract.flaw?_eq_none_iff.1 valid
  have either := fun v => @negotiate_either_iff r c v hr hc strides unordered
  have one := fun v => @negotiate_one_order r c v hr hc strides unordered
  refine ⟨⟨?_, ?_⟩, fun v hv => ?_⟩
  · rintro ⟨v, hv⟩
    rcases (either v).1 hv with row | ⟨gaps, column⟩
    · exact ⟨.inl ⟨v, row⟩, fun ⟨_, too_large⟩ => too_large ((one v .rowMajor).1 row).2.2.1⟩
    · exact ⟨.inr ⟨v, column⟩, fun ⟨packed, _⟩ => gaps packed⟩
  · rintro ⟨⟨v, row⟩ | ⟨v, column⟩, fits⟩
    · exact ⟨v, (either v).2 (.inl row)⟩
    · by_cases packed : r.Packed .rowMajor
      · -- the view is that of row-major order, whose strides exist
        have has : MemoryOrder.rowMajor.HasStrides r.itemSize r.shape := by
          by_contra too_large
          exact fits ⟨packed, too_large⟩
        have access := ((one v .columnMajor).1 column).1
        exact ⟨_, (either _).2 (.inl ((one _ .rowMajor).2 ⟨access, packed, has, rfl⟩))⟩
      · exact ⟨v, (either v).2 (.inr ⟨packed, column⟩)⟩
  · rcases (either v).1 hv with row | ⟨gaps, column⟩
    · exact .inl row
    · exact .inr ⟨fun ⟨v', row⟩ => gaps ((one v' .rowMajor).1 row).2.1, column⟩

/-- A region in column-major order has no view in row-major order, and either order gives its view
in column-major order. -/
theorem negotiate_either_order_columns :
    let c : Contract := .ofFlags [.strides, .extents]
    let d : Description := { base := .fixed 4096, extent := .items 8 [3, 2] [8, 24] }
    ∃ r v, d.region = .ok r ∧ r.negotiate (c.withOrder .anyOrder) = .ok v ∧
      (¬ ∃ v', r.negotiate (c.withOrder .rowMajor) = .ok v') ∧
      r.negotiate (c.withOrder .columnMajor) = .ok v ∧ v.strides = some [8, 24] := by
  have built : Description.region ⟨.fixed 4096, .items 8 [3, 2] [8, 24], false, none, none⟩ =
      .ok ⟨.fixed 4096, 48, 8, false, "B", [3, 2], [8, 24], none⟩ := by rfl
  have met : Region.negotiate ⟨.fixed 4096, 48, 8, false, "B", [3, 2], [8, 24], none⟩
      (Contract.withOrder (.ofFlags [.strides, .extents]) .anyOrder) =
        .ok ⟨.fixed 4096, 48, 8, 2, false, none, some [3, 2], some [8, 24], none⟩ := by rfl
  have refused : Region.negotiate ⟨.fixed 4096, 48, 8, false, "B", [3, 2], [8, 24], none⟩
      (Contract.withOrder (.ofFlags [.strides, .extents]) .rowMajor) =
        .error (.incompatibleLayout
          (Contract.withOrder (.ofFlags [.strides, .extents]) .rowMajor)
          Mismatch.notRowMajor.text) := by rfl
  obtain ⟨-, views⟩ := negotiate_either_order (c := .ofFlags [.strides, .extents]) built (by decide)
    (by decide) (by decide)
  rcases views _ met with row | ⟨none, column⟩
  · cases row.symm.trans refused
  · exact ⟨_, _, built, met, none, column, rfl⟩

/-- A region without items is packed in both orders.  Its strides in row-major order are too large
and those in column-major order are not, and yet it is refused under either order. -/
theorem either_order_refused_without_items :
    let c : Contract := .ofFlags [.strides, .extents]
    let d : Description :=
      { base := .fixed 4096, extent := .items 8 [0, 18446744073709551615, 2] [8, 8, 8] }
    c.flaw? = none ∧ c.has .strides = true ∧ (∀ f ∈ Flag.orders, c.has f = false) ∧
      ∃ r, d.region = .ok r ∧
        ¬ ((∃ v, r.negotiate (c.withOrder .anyOrder) = .ok v) ↔
          (∃ v, r.negotiate (c.withOrder .rowMajor) = .ok v) ∨
            ∃ v, r.negotiate (c.withOrder .columnMajor) = .ok v) := by
  have built : Description.region
      ⟨.fixed 4096, .items 8 [0, 18446744073709551615, 2] [8, 8, 8], false, none, none⟩ =
    .ok ⟨.fixed 4096, 0, 8, false, "B", [0, 18446744073709551615, 2], [8, 8, 8], none⟩ := by rfl
  have column : Region.negotiate
      ⟨.fixed 4096, 0, 8, false, "B", [0, 18446744073709551615, 2], [8, 8, 8], none⟩
      (Contract.withOrder (.ofFlags [.strides, .extents]) .columnMajor) =
    .ok ⟨.fixed 4096, 0, 8, 3, false, none, some [0, 18446744073709551615, 2],
      some [8, 0, 0], none⟩ := by rfl
  have refused : Region.negotiate
      ⟨.fixed 4096, 0, 8, false, "B", [0, 18446744073709551615, 2], [8, 8, 8], none⟩
      (Contract.withOrder (.ofFlags [.strides, .extents]) .anyOrder) =
    .error (.incompatibleLayout (Contract.withOrder (.ofFlags [.strides, .extents]) .anyOrder)
      Mismatch.canonicalStrides.text) := by rfl
  refine ⟨by decide, by decide, by decide, _, built, fun same => ?_⟩
  obtain ⟨v, hv⟩ := same.2 (.inr ⟨_, column⟩)
  cases hv.symm.trans refused

end Region
end MemoryLease
