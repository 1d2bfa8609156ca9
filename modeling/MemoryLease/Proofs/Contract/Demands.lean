import Mathlib.Data.List.Nodup
import MemoryLease.Contract.Builder
import MemoryLease.Proofs.Contract.Consistent

/-!
# Contracts that can be demanded

A contract is written down in three ways: as a word of flags, as demands on the axes, and as the
axes that are read off the word.  A word that is built from demands has the flags that the axes ask
for and no others (`Draft.has_contract`), so it contradicts itself nowhere, and its axes are those
demanded last (`Draft.ofContract_contract`).  Conversely the axes tell every flag of a consistent
contract (`Consistent.eq_of_axes`).  So the consistent words are exactly those that demands build,
and each of them is built by repeating its axes (`consistent_contracts_are_demanded`).
-/

namespace MemoryLease

/-- A level that another one includes adds nothing to it. -/
theorem Metadata.max_of_le {m n : Metadata} (h : n ≤ m) : m.max n = m := by
  rw [max]
  split
  · rename_i h'
    exact level_injective (Nat.le_antisymm h h')
  · rfl

namespace Contract

variable {c d : Contract}

/-! ### Words without unknown bits -/

/-- The bits of a contract that is made of some flags are those of the flags. -/
theorem getLsbD_ofFlags_iff {fs : List Flag} {i : Nat} :
    (ofFlags fs).bits.getLsbD i = true ↔ ∃ f ∈ fs, f.position = i := by
  induction fs with
  | nil => simp [ofFlags]
  | cons f fs ih =>
    have inside : f.position < 32 := by have := f.position_lt; omega
    simp [ofFlags, ih, inside]

/-- Flags set no bit that stands for nothing. -/
theorem unknownBits_ofFlags (fs : List Flag) : (ofFlags fs).unknownBits = 0 := by
  refine BitVec.eq_of_getLsbD_eq fun i hi => ?_
  have known : (ofFlags fs).bits.getLsbD i = true →
      (ofFlags Flag.all).bits.getLsbD i = true := by
    simp only [getLsbD_ofFlags_iff]
    rintro ⟨f, -, place⟩
    exact ⟨f, f.mem_all, place⟩
  simp only [unknownBits, BitVec.getLsbD_and, BitVec.getLsbD_not, hi, decide_true, Bool.true_and]
  cases h : (ofFlags fs).bits.getLsbD i <;> simp_all

/-- Every bit of a word without unknown bits stands for a flag. -/
theorem getLsbD_iff_exists_flag (known : c.unknownBits = 0) {i : Nat} :
    c.bits.getLsbD i = true ↔ ∃ f : Flag, f.position = i ∧ c.has f = true := by
  constructor
  · intro one
    have hi : i < 32 := BitVec.lt_of_getLsbD one
    have bit := congrArg (·.getLsbD i) known
    simp only [unknownBits, BitVec.getLsbD_and, BitVec.getLsbD_not, hi, one] at bit
    have flag : (ofFlags Flag.all).bits.getLsbD i = true := by simpa using bit
    obtain ⟨f, -, rfl⟩ := getLsbD_ofFlags_iff.1 flag
    exact ⟨f, rfl, one⟩
  · rintro ⟨f, rfl, one⟩
    exact one

/-- Words without unknown bits that have the same flags are the same. -/
theorem eq_of_has (hc : c.unknownBits = 0) (hd : d.unknownBits = 0)
    (same : ∀ f, c.has f = d.has f) : c = d := by
  have word : c.bits = d.bits := by
    refine BitVec.eq_of_getLsbD_eq fun i _ => ?_
    rw [Bool.eq_iff_iff, getLsbD_iff_exists_flag hc, getLsbD_iff_exists_flag hd]
    simp only [same]
  cases c
  cases d
  exact congrArg Contract.mk word

/-- **The axes tell a consistent contract.** -/
theorem Consistent.eq_of_axes (hc : c.Consistent) (hd : d.Consistent)
    (axes : Draft.ofContract c = Draft.ofContract d) : c = d := by
  simp only [Draft.ofContract, Draft.mk.injEq] at axes
  obtain ⟨writable, format, contiguity, metadata⟩ := axes
  refine eq_of_has hc.known hd.known fun f => ?_
  cases f with
  | writable => exact writable
  | format => exact format
  | extents =>
    rw [Bool.eq_iff_iff, ← hc.extents_le_metadata_iff, ← hd.extents_le_metadata_iff, metadata]
  | strides =>
    rw [Bool.eq_iff_iff, ← hc.strides_le_metadata_iff, ← hd.strides_le_metadata_iff, metadata]
  | rowMajor =>
    rw [Bool.eq_iff_iff, ← contiguity_eq_rowMajor_iff, ← contiguity_eq_rowMajor_iff, contiguity]
  | columnMajor =>
    rw [Bool.eq_iff_iff, ← hc.contiguity_eq_columnMajor_iff, ← hd.contiguity_eq_columnMajor_iff,
      contiguity]
  | anyOrder =>
    rw [Bool.eq_iff_iff, ← hc.contiguity_eq_either_iff, ← hd.contiguity_eq_either_iff,
      contiguity]
  | suboffsets =>
    rw [Bool.eq_iff_iff, ← metadata_eq_indirect_iff, ← metadata_eq_indirect_iff, metadata]

/-! ### What a draft builds -/

namespace Draft

/-- Whether the axes of a draft ask for a flag. -/
def asks (d : Draft) : Flag → Bool
  | .writable => d.writable
  | .format => d.format
  | .extents => Metadata.extents ≤ d.finalMetadata
  | .strides => Metadata.strides ≤ d.finalMetadata
  | .suboffsets => Metadata.indirect ≤ d.finalMetadata
  | .rowMajor => d.contiguity = .rowMajor
  | .columnMajor => d.contiguity = .columnMajor
  | .anyOrder => d.contiguity = .either

/-- A level of metadata sets the flag of each level that it includes. -/
theorem mem_metadataFlags_iff {f : Flag} {m : Metadata} :
    f ∈ metadataFlags m ↔ f = .extents ∧ Metadata.extents ≤ m ∨
      f = .strides ∧ Metadata.strides ≤ m ∨ f = .suboffsets ∧ Metadata.indirect ≤ m := by
  cases m <;> cases f <;> decide

/-- A contiguity sets the flag that stands for it, and no other. -/
theorem mem_contiguityFlags_iff {f : Flag} {c : Contiguity} :
    f ∈ contiguityFlags c ↔ f = .rowMajor ∧ c = .rowMajor ∨
      f = .columnMajor ∧ c = .columnMajor ∨ f = .anyOrder ∧ c = .either := by
  cases c <;> cases f <;> decide

/-- **A draft builds the flags that its axes ask for**, and no others. -/
theorem has_contract (d : Draft) (f : Flag) : d.contract.has f = d.asks f := by
  rw [contract, has_ofFlags, Bool.eq_iff_iff, decide_eq_true_iff]
  simp only [List.mem_append, mem_metadataFlags_iff, mem_contiguityFlags_iff]
  cases f <;> simp [asks]

/-- Who asks for an order gets strides. -/
theorem strides_le_finalMetadata {d : Draft} (ordered : d.contiguity ≠ .unspecified) :
    Metadata.strides ≤ d.finalMetadata := by
  rw [finalMetadata, if_neg ordered]
  cases d.metadata <;> decide

/-- A draft that asks for an order has a contiguity. -/
theorem ordered_of_asks {d : Draft} {f : Flag} (hf : f ∈ Flag.orders) (asked : d.asks f = true) :
    d.contiguity ≠ .unspecified := by
  intro none
  simp only [Flag.orders, List.mem_cons, List.not_mem_nil, or_false] at hf
  rcases hf with rfl | rfl | rfl <;> simp [asks, none] at asked

/-- **What a draft builds is consistent.** -/
theorem consistent_contract (d : Draft) : d.contract.Consistent where
  known := unknownBits_ofFlags _
  extents_of_strides := by
    simp only [has_contract, asks, decide_eq_true_iff]
    exact Nat.le_trans (by decide)
  strides_of_suboffsets := by
    simp only [has_contract, asks, decide_eq_true_iff]
    exact Nat.le_trans (by decide)
  strides_of_order := by
    simp only [has_contract]
    intro f hf asked
    exact decide_eq_true (strides_le_finalMetadata (ordered_of_asks hf asked))
  order_unique := by
    simp only [has_contract, Flag.orders, List.forall_mem_cons, asks, decide_eq_true_iff]
    cases d.contiguity <;> simp

/-- **A contract shows the axes of its draft**: what has been demanded last, with the metadata
raised to strides if an order is asked for. -/
theorem ofContract_contract (d : Draft) :
    ofContract d.contract = { d with metadata := d.finalMetadata } := by
  have contiguity : d.contract.contiguity = d.contiguity := by
    simp only [Contract.contiguity, has_contract, asks]
    cases d.contiguity <;> rfl
  have metadata : d.contract.metadata = d.finalMetadata := by
    simp only [Contract.metadata, has_contract, asks]
    cases d.finalMetadata <;> rfl
  simp only [ofContract, isWritable, wantsFormat, has_contract, asks, contiguity, metadata]

/-- The axes of a consistent contract ask for no more metadata than it has. -/
theorem finalMetadata_ofContract (hc : c.Consistent) :
    (ofContract c).finalMetadata = c.metadata := by
  rw [finalMetadata]
  split
  · rfl
  · rename_i ordered
    have strides : Metadata.strides ≤ c.metadata := by
      rw [hc.strides_le_metadata_iff]
      by_contra missing
      exact ordered (contiguity_eq_unspecified_iff.2 fun f hf =>
        Bool.eq_false_iff.2 fun asked => missing (hc.strides_of_order f hf asked))
    exact Metadata.max_of_le strides

/-- **A consistent contract is built from its axes.** -/
theorem contract_ofContract (hc : c.Consistent) : (ofContract c).contract = c := by
  refine (consistent_contract _).eq_of_axes hc ?_
  rw [ofContract_contract, finalMetadata_ofContract hc]
  rfl

end Draft

/-! ### Demands in any order -/

/-- The axis of a demand. -/
inductive Demand.Axis where
  | writable | format | contiguity | metadata

/-- The axis that a demand is about. -/
def Demand.axis : Demand → Demand.Axis
  | .writable => .writable
  | .format => .format
  | .contiguity _ => .contiguity
  | .metadata _ => .metadata

/-- Demands on different axes do not see each other. -/
theorem Draft.demand_comm {a b : Demand} (apart : a.axis = b.axis → a = b) (d : Draft) :
    (d.demand a).demand b = (d.demand b).demand a := by
  by_cases same : a.axis = b.axis
  · rw [apart same]
  · cases a <;> cases b <;> simp_all [Demand.axis, Draft.demand]

/-- The demands that repeat the axes of a contract. -/
def axisDemands (c : Contract) : List Demand :=
  (if c.isWritable then [.writable] else []) ++ (if c.wantsFormat then [.format] else []) ++
    [.contiguity c.contiguity, .metadata c.metadata]

/-- The demands that are read off a contract are on different axes. -/
theorem nodup_axes (c : Contract) : (c.axisDemands.map Demand.axis).Nodup := by
  rw [axisDemands]
  cases c.isWritable <;> cases c.wantsFormat <;> simp [Demand.axis]

/-- Demanding what is read off a contract gives the contract of the draft that it makes. -/
theorem ofDemands_axisDemands (c : Contract) :
    ofDemands c.axisDemands = (Draft.ofContract c).contract := by
  rw [ofDemands, axisDemands, Draft.ofContract]
  cases c.isWritable <;> cases c.wantsFormat <;> rfl

/-- The axes can be repeated in any order. -/
theorem ofDemands_of_perm {demands : List Demand} (h : demands.Perm c.axisDemands) :
    ofDemands demands = (Draft.ofContract c).contract := by
  have distinct := List.inj_on_of_nodup_map c.nodup_axes
  rw [← ofDemands_axisDemands, ofDemands, ofDemands]
  refine congrArg Draft.contract (h.foldl_eq' (fun a ha b hb d => ?_) _)
  exact Draft.demand_comm (distinct (h.mem_iff.1 ha) (h.mem_iff.1 hb)) d

/-- **The consistent contracts are those that demands build.**  A word of flags has no flaw exactly
if some demands, made one after the other, build it.  The demands that repeat its axes build it
again, in any order, and no other word without a flaw has the same axes.  What demands build has the
axes that have been demanded last, but for the metadata: an order brings strides with it. -/
theorem consistent_contracts_are_demanded (bits : BitVec 32) :
    let c : Contract := ⟨bits⟩
    (c.flaw? = none ↔ ∃ demands, (ofDemands demands).bits = bits) ∧
    (c.flaw? = none → ∀ demands, demands.Perm c.axisDemands → (ofDemands demands).bits = bits) ∧
    (c.flaw? = none → ∀ d : Contract, d.flaw? = none → d.isWritable = c.isWritable →
      d.wantsFormat = c.wantsFormat → d.contiguity = c.contiguity → d.metadata = c.metadata →
      d.bits = bits) ∧
    ∀ demands, let draft := demands.foldl Draft.demand {}
      Draft.ofContract (ofDemands demands) = { draft with metadata := draft.finalMetadata } := by
  intro c
  simp only [flaw?_eq_none_iff]
  have rebuilt : c.Consistent → ∀ demands, demands.Perm c.axisDemands →
      (ofDemands demands).bits = bits := by
    intro hc demands h
    rw [ofDemands_of_perm h, Draft.contract_ofContract hc]
  refine ⟨⟨fun hc => ⟨_, rebuilt hc _ (.refl _)⟩, ?_⟩, rebuilt, ?_, ?_⟩
  · rintro ⟨demands, rfl⟩
    exact Draft.consistent_contract _
  · intro hc d hd writable format contiguity metadata
    have axes : Draft.ofContract d = Draft.ofContract c := by
      simp only [Draft.ofContract, writable, format, contiguity, metadata]
    exact congrArg Contract.bits (hd.eq_of_axes hc axes)
  · intro demands
    exact Draft.ofContract_contract _

/-- Access for writing, either order, and extents: the order has brought strides with it. -/
theorem consistent_contracts_are_demanded_either_order :
    (∃ demands, (ofDemands demands).bits = 0x99) ∧
    (ofDemands [.metadata .strides, .contiguity .either, .writable]).bits = 0x99 ∧
    ¬ ∃ demands, (ofDemands demands).bits = 0x89 := by
  obtain ⟨built, rebuilt, -⟩ := consistent_contracts_are_demanded 0x99
  have consistent : flaw? ⟨0x99⟩ = none := by decide
  refine ⟨built.1 consistent, rebuilt consistent _ ?_, fun h => ?_⟩
  · decide
  · have flawless := (consistent_contracts_are_demanded 0x89).1.2 h
    exact absurd flawless (by decide)

end Contract
end MemoryLease
