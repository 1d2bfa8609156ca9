import MemoryLease.Proofs.Contract.Consistent
import MemoryLease.Proofs.Negotiation.Addressing
import MemoryLease.Proofs.Strides.Canonical

/-!
# What negotiation decides

Negotiation compares strides.  Whether a region meets a contract can be said without them, by where
the items lie (`Region.Meets`), and what the view tells of the region by the flags of the contract
(`Region.Tells`).  Negotiation decides exactly that (`Region.negotiate_decides`): no view is given
of a region whose items lie otherwise than the contract asks, and no region is turned away whose
items lie as it asks.
-/

namespace MemoryLease

/-- There are two orders. -/
theorem MemoryOrder.exists_iff {p : MemoryOrder → Prop} :
    (∃ order, p order) ↔ p .rowMajor ∨ p .columnMajor := by
  constructor
  · rintro ⟨order, h⟩
    cases order with
    | rowMajor => exact .inl h
    | columnMajor => exact .inr h
  · rintro (h | h)
    · exact ⟨_, h⟩
    · exact ⟨_, h⟩

namespace Region

open Shape (InBounds)

/-- A region is reached without further addresses, and each item lies as many items from the base
as an order puts in front of it. -/
def Packed (r : Region) (order : MemoryOrder) : Prop :=
  r.suboffsets = none ∧ ∀ index, InBounds r.shape index →
    r.offsetOf index = r.itemSize * order.rank r.shape index

/-- The order whose strides a view of a region reports, if the contract asks for one: the order
that it asks for, and where either will do, row-major order if the region is in row-major order and
column-major order if not. -/
def Reports (r : Region) (c : Contract) : MemoryOrder → Prop
  | .rowMajor => c.has .rowMajor = true ∨ (c.has .anyOrder = true ∧ r.Packed .rowMajor)
  | .columnMajor => c.has .columnMajor = true ∨ (c.has .anyOrder = true ∧ ¬ r.Packed .rowMajor)

namespace Reports

variable {r : Region} {c : Contract} {order other : MemoryOrder}

/-- Strides of an order are reported only under a contract that asks for one. -/
theorem asks (h : r.Reports c order) : ¬ ∀ f ∈ Flag.orders, c.has f = false := by
  intro none
  have row := none .rowMajor (by decide)
  have column := none .columnMajor (by decide)
  have either := none .anyOrder (by decide)
  cases order <;> simp [Reports, row, column, either] at h

/-- Strides of an order are reported only under a contract that asks for strides. -/
theorem strides (h : r.Reports c order) (hc : c.Consistent) : c.has .strides = true := by
  by_contra hs
  refine h.asks fun f hf => ?_
  rw [Bool.eq_false_iff]
  exact fun has => hs (hc.strides_of_order f hf has)

/-- Under every contract that asks for an order the strides of one are reported. -/
theorem or_none (r : Region) (c : Contract) :
    (∀ f ∈ Flag.orders, c.has f = false) ∨ ∃ order, r.Reports c order := by
  rw [or_iff_not_imp_left]
  intro asked
  push Not at asked
  obtain ⟨f, hf, has⟩ := asked
  rw [ne_eq, Bool.not_eq_false] at has
  simp only [Flag.orders, List.mem_cons, List.not_mem_nil, or_false] at hf
  rcases hf with rfl | rfl | rfl
  · exact ⟨.rowMajor, .inl has⟩
  · exact ⟨.columnMajor, .inl has⟩
  · by_cases row : r.Packed .rowMajor
    · exact ⟨.rowMajor, .inr ⟨has, row⟩⟩
    · exact ⟨.columnMajor, .inr ⟨has, row⟩⟩

/-- The strides of both orders are never reported. -/
theorem not_both (hc : c.Consistent) (row : r.Reports c .rowMajor) :
    ¬ r.Reports c .columnMajor := by
  intro column
  rcases row with row | ⟨either, packed⟩ <;> rcases column with column | ⟨either', gaps⟩
  · cases hc.order_unique _ (by decide) _ (by decide) row column
  · cases hc.order_unique _ (by decide) _ (by decide) row either'
  · cases hc.order_unique _ (by decide) _ (by decide) either column
  · exact gaps packed

/-- A region reports the strides of one order at most. -/
theorem unique (hc : c.Consistent) (h : r.Reports c order) (h' : r.Reports c other) :
    order = other := by
  cases order with
  | rowMajor =>
    cases other with
    | rowMajor => rfl
    | columnMajor => exact absurd h' (not_both hc h)
  | columnMajor =>
    cases other with
    | rowMajor => exact absurd h (not_both hc h')
    | columnMajor => rfl

end Reports

/-- The layout of a region meets a contract. -/
structure Meets (r : Region) (c : Contract) : Prop where
  direct : r.suboffsets = none ∨ c.has .suboffsets = true
  rowMajor : c.has .strides = false ∨ c.has .rowMajor = true → r.Packed .rowMajor
  columnMajor : c.has .columnMajor = true → r.Packed .columnMajor
  anyOrder : c.has .anyOrder = true → r.Packed .rowMajor ∨ r.Packed .columnMajor
  strides : ∀ order, r.Reports c order → order.HasStrides r.itemSize r.shape

/-- What a view under a contract tells of a region. -/
structure Tells (r : Region) (c : Contract) (v : MemoryView) : Prop where
  address : v.address = r.base
  length : v.length = r.length
  itemSize : v.itemSize = r.itemSize
  dimensions : v.dimensions = r.shape.length
  readOnly : v.readOnly = r.readOnly
  format : v.format = if c.has .format then some r.format else none
  shape : v.shape = if c.has .extents then some r.shape else none
  suboffsets : v.suboffsets = if c.has .suboffsets then r.suboffsets else none
  noStrides : c.has .strides = false → v.strides = none
  ownStrides : c.has .strides = true → (∀ f ∈ Flag.orders, c.has f = false) →
    v.strides = some r.strides
  orderStrides : ∀ order, r.Reports c order → v.strides = some (order.strides r.itemSize r.shape)

/-- A check that refuses, followed by others. -/
theorem refuse_eq_ok_iff {ε α : Type} {p : Prop} [Decidable p] {e : ε} {others : Except ε α}
    {a : α} : (if p then .error e else others) = .ok a ↔ ¬ p ∧ others = .ok a := by
  by_cases h : p <;> simp [h]

/-- The canonical strides of a region are there exactly if each of them is an offset. -/
theorem canonicalStrides_eq_ok_iff {r : Region} {order : MemoryOrder} {strides : List Int} :
    r.canonicalStrides order = .ok strides ↔
      order.HasStrides r.itemSize r.shape ∧ strides = order.strides r.itemSize r.shape := by
  rw [← Strides.canonical?_eq_some_iff]
  constructor
  · exact canonicalStrides_eq_ok
  · intro h
    rw [canonicalStrides, h]

namespace WellFormed

variable {r : Region} {c : Contract}

/-- **The test for contiguity** tells where the items lie. -/
theorem isContiguous_iff (hr : r.WellFormed) {order : MemoryOrder} :
    r.isContiguous order = true ↔ r.Packed order := by
  have fits : r.shape.prod * r.itemSize ≤ sizeMax := by
    obtain ⟨hl, hle⟩ := Shape.byteLength?_eq_some hr.byteLength
    rwa [hl] at hle
  rw [isContiguous, Bool.and_eq_true, Option.isNone_iff_eq_none,
    Strides.isContiguous_iff hr.strides_length fits]
  exact Iff.rfl

/-- The strides that are reported for the contiguity of a contract. -/
theorem reportedStrides_eq_ok_iff (hr : r.WellFormed) (hc : c.Consistent) {strides : List Int} :
    r.reportedStrides c.contiguity = .ok strides ↔
      (c.has .columnMajor = true → r.Packed .columnMajor) ∧
      (c.has .anyOrder = true → r.Packed .rowMajor ∨ r.Packed .columnMajor) ∧
      ((∀ f ∈ Flag.orders, c.has f = false) ∧ strides = r.strides ∨
        ∃ order, r.Reports c order ∧ order.HasStrides r.itemSize r.shape ∧
          strides = order.strides r.itemSize r.shape) := by
  simp only [MemoryOrder.exists_iff, Reports, ← Contract.contiguity_eq_rowMajor_iff,
    ← hc.contiguity_eq_columnMajor_iff, ← hc.contiguity_eq_either_iff,
    ← Contract.contiguity_eq_unspecified_iff]
  cases c.contiguity with
  | unspecified => simp [reportedStrides, eq_comm]
  | rowMajor => simp [reportedStrides, canonicalStrides_eq_ok_iff]
  | columnMajor =>
    by_cases column : r.Packed .columnMajor
    · simp [reportedStrides, hr.isContiguous_iff, canonicalStrides_eq_ok_iff, column]
    · simp [reportedStrides, hr.isContiguous_iff, column]
  | either =>
    by_cases row : r.Packed .rowMajor
    · simp [reportedStrides, hr.isContiguous_iff, canonicalStrides_eq_ok_iff, row]
    · by_cases column : r.Packed .columnMajor
      · simp [reportedStrides, hr.isContiguous_iff, canonicalStrides_eq_ok_iff, row, column]
      · simp [reportedStrides, hr.isContiguous_iff, row, column]

/-- **What strides are agreed on.**  The contract has to cope with the suboffsets, the region has to
be packed where the contract relies on that, and the strides are those that are reported. -/
theorem agreedStrides_eq_ok_iff (hr : r.WellFormed) {strides : List Int} :
    r.agreedStrides c = .ok strides ↔
      (r.suboffsets = none ∨ c.has .suboffsets = true) ∧
      (c.has .strides = false ∨ c.has .rowMajor = true → r.Packed .rowMajor) ∧
      r.reportedStrides c.contiguity = .ok strides := by
  rw [agreedStrides_of_consistent hr.consistent, refuse_eq_ok_iff, refuse_eq_ok_iff]
  refine and_congr ?_ (and_congr ?_ Iff.rfl)
  · rw [← Contract.metadata_eq_indirect_iff]
    cases r.suboffsets <;> simp
  · rw [← hr.isContiguous_iff]
    simp [Contract.requiresRowMajor]

/-- A region meets a contract exactly if the strides that a view of it reports exist. -/
theorem exists_agreedStrides_iff (hr : r.WellFormed) (hc : c.Consistent) :
    (∃ strides, r.agreedStrides c = .ok strides) ↔ r.Meets c := by
  simp only [hr.agreedStrides_eq_ok_iff, hr.reportedStrides_eq_ok_iff hc]
  constructor
  · rintro ⟨strides, direct, row, column, either, told⟩
    refine ⟨direct, row, column, either, fun order reports => ?_⟩
    rcases told with ⟨none, -⟩ | ⟨other, reports', has, -⟩
    · exact absurd none reports.asks
    · exact Reports.unique hc reports reports' ▸ has
  · rintro ⟨direct, row, column, either, has⟩
    rcases Reports.or_none r c with none | ⟨order, reports⟩
    · exact ⟨_, direct, row, column, either, .inl ⟨none, rfl⟩⟩
    · exact ⟨_, direct, row, column, either, .inr ⟨order, reports, has order reports, rfl⟩⟩

/-- The view of agreed strides tells all that it has to. -/
theorem tells_view (hr : r.WellFormed) (hc : c.Consistent) {strides : List Int}
    (h : r.agreedStrides c = .ok strides) : r.Tells c (r.view c strides) := by
  obtain ⟨-, -, h⟩ := hr.agreedStrides_eq_ok_iff.1 h
  obtain ⟨-, -, told⟩ := (hr.reportedStrides_eq_ok_iff hc).1 h
  have told_strides :
      (r.view c strides).strides = if c.has .strides then some strides else none := by
    simp only [view, hc.strides_le_metadata_iff]
  refine ⟨rfl, rfl, rfl, rfl, rfl, rfl, ?_, ?_, fun hs => ?_, fun hs none => ?_,
    fun order reports => ?_⟩
  · simp only [view, hc.extents_le_metadata_iff]
  · simp only [view, Contract.metadata_eq_indirect_iff]
  · rw [told_strides, hs]
    rfl
  · rcases told with ⟨-, rfl⟩ | ⟨order, reports, -, -⟩
    · rw [told_strides, hs]
      rfl
    · exact absurd none reports.asks
  · rcases told with ⟨none, -⟩ | ⟨other, reports', -, rfl⟩
    · exact absurd none reports.asks
    · rw [told_strides, reports.strides hc, Reports.unique hc reports reports']
      rfl

end WellFormed

/-! ### The decision -/

/-- A region refuses as read-only exactly if the contract is for writing and the region is not. -/
theorem negotiate_eq_readOnly_iff {r : Region} {c : Contract} :
    r.negotiate c = .error .readOnly ↔ c.has .writable = true ∧ r.readOnly = true := by
  rw [negotiate, Contract.isWritable, ← Bool.and_eq_true]
  constructor
  · intro h
    split at h
    · assumption
    · split at h <;> cases h
  · intro h
    rw [if_pos h]

/-- Where writing is no obstacle, the strides decide. -/
theorem negotiate_of_access {r : Region} {c : Contract}
    (access : ¬ (c.has .writable = true ∧ r.readOnly = true)) :
    (∃ strides, r.agreedStrides c = .ok strides ∧ r.negotiate c = .ok (r.view c strides)) ∨
    ∃ mismatch : Mismatch, r.agreedStrides c = .error mismatch ∧
      r.negotiate c = .error (.incompatibleLayout c mismatch.text) := by
  rw [negotiate, Contract.isWritable, if_neg (by rwa [Bool.and_eq_true])]
  cases h : r.agreedStrides c with
  | ok strides => exact .inl ⟨strides, rfl, rfl⟩
  | error mismatch => exact .inr ⟨mismatch, rfl, rfl⟩

/-- A view of a region that must not be written is never one for writing. -/
theorem access_of_negotiate {r : Region} {c : Contract} {v : MemoryView}
    (h : r.negotiate c = .ok v) : ¬ (c.has .writable = true ∧ r.readOnly = true) := by
  rintro ⟨writable, readOnly⟩
  rw [(negotiate_eq_ok h).1 writable] at readOnly
  cases readOnly

/-- Where writing is no obstacle, strides that are agreed on give a view. -/
theorem negotiate_of_agreedStrides {r : Region} {c : Contract} {strides : List Int}
    (access : ¬ (c.has .writable = true ∧ r.readOnly = true))
    (agreed : r.agreedStrides c = .ok strides) : r.negotiate c = .ok (r.view c strides) := by
  rcases negotiate_of_access access with ⟨strides', hs, hn⟩ | ⟨mismatch, refused, -⟩
  · rw [hn, Except.ok.inj (agreed.symm.trans hs)]
  · cases agreed.symm.trans refused

/-- **Every described region passes the checks** of what a region states of itself. -/
theorem Description.consistent {d : Description} {r : Region} (built : d.region = .ok r) :
    r.inconsistency? = none :=
  (region_eq_ok built).1.consistent

/-- **What does not fit together meets no contract.**  A region that passes the checks is the only
one of which there is a view; any other is turned away with what it states wrongly, unless it is
turned away already because it must not be written. -/
theorem negotiate_of_inconsistency {r : Region} {what : Inconsistency}
    (inconsistent : r.inconsistency? = some what) (c : Contract) :
    r.negotiate c = if c.has .writable = true ∧ r.readOnly = true then .error .readOnly
      else .error (.incompatibleLayout c (Mismatch.inconsistent what).text) := by
  split
  · rename_i access
    exact negotiate_eq_readOnly_iff.2 access
  · rename_i access
    have refused : r.agreedStrides c = .error (.inconsistent what) := by
      simp only [agreedStrides, inconsistent]
    rcases negotiate_of_access access with ⟨strides, agreed, -⟩ | ⟨mismatch, mismatched, told⟩
    · cases agreed.symm.trans refused
    · obtain rfl := Except.error.inj (mismatched.symm.trans refused)
      exact told

/-- Three bytes are stated for two items of two bytes each. -/
example : Region.negotiate ⟨.fixed 4096, 3, 2, false, "H", [2], [2], none⟩ (.ofFlags []) =
    .error (.incompatibleLayout (.ofFlags []) "length does not match shape and item size") := by
  rfl

/-- **Negotiation decides by where the items lie.**  A region that must not be written meets no
contract for writing.  Of any other region there is a view if and only if it meets the contract;
otherwise its layout is incompatible.  The view tells of the region what the contract asks for. -/
theorem negotiate_decides {d : Description} {r : Region} (built : d.region = .ok r) {c : Contract}
    (valid : c.flaw? = none) :
    (r.negotiate c = .error .readOnly ↔ c.has .writable = true ∧ r.readOnly = true) ∧
    (¬ (c.has .writable = true ∧ r.readOnly = true) →
      ((∃ v, r.negotiate c = .ok v) ↔ r.Meets c) ∧
      (¬ r.Meets c → ∃ mismatch : Mismatch,
        r.negotiate c = .error (.incompatibleLayout c mismatch.text))) ∧
    ∀ v, r.negotiate c = .ok v → r.Tells c v := by
  have hr : r.WellFormed := (Description.region_eq_ok built).1
  have hc : c.Consistent := Contract.flaw?_eq_none_iff.1 valid
  refine ⟨negotiate_eq_readOnly_iff, fun access => ?_, fun v hv => ?_⟩
  · rw [← hr.exists_agreedStrides_iff hc]
    rcases negotiate_of_access access with ⟨strides, hs, hn⟩ | ⟨mismatch, hs, hn⟩
    · have agreed : ∃ strides, r.agreedStrides c = .ok strides := ⟨strides, hs⟩
      exact ⟨⟨fun _ => agreed, fun _ => ⟨_, hn⟩⟩, fun none => absurd agreed none⟩
    · have none : ¬ ∃ strides, r.agreedStrides c = .ok strides := by simp [hs]
      have refused : ¬ ∃ v, r.negotiate c = .ok v := by simp [hn]
      exact ⟨⟨fun h => absurd h refused, fun h => absurd h none⟩, fun _ => ⟨mismatch, hn⟩⟩
  · obtain ⟨-, strides, hs, rfl⟩ := negotiate_eq_ok hv
    exact hr.tells_view hc hs

/-- Under a contract for either order, three items next to each other are reported in row-major
order, whatever the stride of a further dimension of extent one is.  A gap in front of each item
turns the region away. -/
theorem negotiate_decides_either :
    let row : Description := { base := .fixed 4096, extent := .items 8 [1, 3] [-7, 8] }
    let gaps : Description := { base := .fixed 4096, extent := .items 8 [3] [16] }
    let either : Contract := .ofFlags [.anyOrder, .strides, .extents]
    (∃ r v, row.region = .ok r ∧ r.Meets either ∧ r.negotiate either = .ok v ∧
      v.strides = some (MemoryOrder.rowMajor.strides 8 [1, 3])) ∧
    ∃ r, gaps.region = .ok r ∧ ¬ r.Meets either ∧
      r.negotiate either = .error (.incompatibleLayout either Mismatch.notContiguous.text) := by
  have valid : (Contract.ofFlags [.anyOrder, .strides, .extents]).flaw? = none := by decide
  constructor
  · have built : Description.region ⟨.fixed 4096, .items 8 [1, 3] [-7, 8], false, none, none⟩ =
        .ok ⟨.fixed 4096, 24, 8, false, "B", [1, 3], [-7, 8], none⟩ := by rfl
    have agreed : Region.negotiate ⟨.fixed 4096, 24, 8, false, "B", [1, 3], [-7, 8], none⟩
        (.ofFlags [.anyOrder, .strides, .extents]) =
          .ok ⟨.fixed 4096, 24, 8, 2, false, none, some [1, 3], some [24, 8], none⟩ := by rfl
    have decided := (negotiate_decides built valid).2.1 (by decide)
    exact ⟨_, _, built, decided.1.1 ⟨_, agreed⟩, agreed, rfl⟩
  · have built : Description.region ⟨.fixed 4096, .items 8 [3] [16], false, none, none⟩ =
        .ok ⟨.fixed 4096, 24, 8, false, "B", [3], [16], none⟩ := by rfl
    have refused : Region.negotiate ⟨.fixed 4096, 24, 8, false, "B", [3], [16], none⟩
        (.ofFlags [.anyOrder, .strides, .extents]) =
          .error (.incompatibleLayout (.ofFlags [.anyOrder, .strides, .extents])
            Mismatch.notContiguous.text) := by rfl
    refine ⟨_, built, fun meets => ?_, refused⟩
    obtain ⟨v, hv⟩ := ((negotiate_decides built valid).2.1 (by decide)).1.2 meets
    cases refused.symm.trans hv

end Region
end MemoryLease
