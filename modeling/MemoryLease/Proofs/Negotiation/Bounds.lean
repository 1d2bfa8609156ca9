import MemoryLease.Proofs.Negotiation.Addressing

/-!
# A view stays inside the memory of its region

Foreign code finds the items of a region where the region's own strides put them.  So if those lie
within a block of memory, the items that a view with strides describes lie within it
(`WellFormed.items_inside`), and a view without strides, which describes a run of bytes, is not
longer than the block (`WellFormed.bytes_inside`).
-/

namespace MemoryLease
namespace Region

open Shape (InBounds)

/-- The items of a region lie within the first bytes from its base. -/
def Inside (r : Region) (size : Nat) : Prop :=
  ∀ index, InBounds r.shape index →
    0 ≤ r.offsetOf index ∧ r.offsetOf index + r.itemSize ≤ size

/-- Some index is the last one in row-major order. -/
theorem exists_rowRank_eq {shape : List Nat} {k : Nat} (h : k < shape.prod) :
    ∃ index, InBounds shape index ∧ Shape.rowRank shape index = k := by
  have hm : k ∈ (Shape.enumerate shape).map (Shape.rowRank shape) := by
    rw [Shape.map_rowRank_enumerate]
    exact List.mem_range.2 h
  obtain ⟨index, hi, hk⟩ := List.mem_map.1 hm
  exact ⟨index, Shape.mem_enumerate_iff.1 hi, hk⟩

namespace WellFormed

variable {r : Region} {c : Contract} {v : MemoryView} {size : Nat}

/-- **A view with strides** describes items that lie where those of the region lie. -/
theorem items_inside (hr : r.WellFormed) (h : r.negotiate c = .ok v) (hi : r.Inside size)
    {strides : List Int} (hv : v.strides = some strides) :
    v.shape = some r.shape ∧ ∀ index, InBounds r.shape index →
      0 ≤ Strides.offsetOf strides index ∧
        Strides.offsetOf strides index + v.itemSize ≤ size := by
  refine ⟨(hr.length_strides_view h hv).1, fun index hb => ?_⟩
  have ho := hr.offsetOf_view h hb
  simp only [MemoryView.offsetOf, hv] at ho
  rw [ho, itemSize_of_negotiate h]
  exact hi index hb

/-- **A view without strides** describes no more bytes than the items of the region reach. -/
theorem bytes_inside (hr : r.WellFormed) (h : r.negotiate c = .ok v) (hi : r.Inside size)
    (hv : v.strides = none) : v.length ≤ size := by
  rw [length_of_negotiate h, hr.length_eq]
  rcases Nat.eq_zero_or_pos r.shape.prod with hz | hp
  · rw [hz, Nat.zero_mul]
    exact Nat.zero_le size
  · obtain ⟨index, hb, hk⟩ := exists_rowRank_eq (Nat.pred_lt (Nat.ne_of_gt hp))
    have ho := hr.offsetOf_view h hb
    have hle := (hi index hb).2
    simp only [MemoryView.offsetOf, hv, itemSize_of_negotiate h, hk] at ho
    have he : r.itemSize * r.shape.prod.pred + r.itemSize = r.shape.prod * r.itemSize := by
      rw [← Nat.mul_succ, Nat.succ_pred_eq_of_pos hp, Nat.mul_comm]
    rw [← ho] at hle
    rw [← he]
    exact_mod_cast hle

end WellFormed
end Region
end MemoryLease
