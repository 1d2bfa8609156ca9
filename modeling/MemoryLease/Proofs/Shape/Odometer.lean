import MemoryLease.Shape

/-!
# The odometer

`Shape.next?` goes from one index to the next without knowing how many there are.  Started at the
first index of a shape without an extent of zero, it goes through exactly the indexes of the shape
in lexicographic order and stops after the last one (`runs_enumerate`).  A list of indexes through
which it goes like that is told by `Runs`.
-/

namespace MemoryLease
namespace Shape

/-- The odometer goes from each index of a list to the one after it, and stops after the last. -/
def Runs (shape : List Nat) : List (List Nat) → Prop
  | [] => False
  | [index] => next? shape index = none
  | index :: other :: rest => next? shape index = some other ∧ Runs shape (other :: rest)

/-- An odometer whose faster places go on keeps its slowest one. -/
theorem next?_cons_of_some {n i : Nat} {ns is js : List Nat} (h : next? ns is = some js) :
    next? (n :: ns) (i :: is) = some (i :: js) := by
  simp [next?, h]

/-- An odometer whose faster places are through advances its slowest one and starts over, unless
that is through as well. -/
theorem next?_cons_of_none {n i : Nat} {ns is : List Nat} (h : next? ns is = none) :
    next? (n :: ns) (i :: is) = if i + 1 < n then some ((i + 1) :: origin ns) else none := by
  simp [next?, h]

/-- Within the last block of indexes the odometer runs to its end. -/
theorem runs_map_last {n i : Nat} {ns : List Nat} {l : List (List Nat)} (h : Runs ns l)
    (hi : n ≤ i + 1) : Runs (n :: ns) (l.map (i :: ·)) := by
  induction l with
  | nil => exact h
  | cons index rest ih =>
    cases rest with
    | nil => exact (next?_cons_of_none h).trans (if_neg (by omega))
    | cons other rest => exact ⟨next?_cons_of_some h.1, ih h.2⟩

/-- From every other block the odometer runs on into the next one. -/
theorem runs_map_append {n i : Nat} {ns : List Nat} {l rest : List (List Nat)} (h : Runs ns l)
    (hi : i + 1 < n) (hr : Runs (n :: ns) (((i + 1) :: origin ns) :: rest)) :
    Runs (n :: ns) (l.map (i :: ·) ++ ((i + 1) :: origin ns) :: rest) := by
  induction l with
  | nil => exact h.elim
  | cons index l ih =>
    cases l with
    | nil => exact ⟨(next?_cons_of_none h).trans (if_pos hi), hr⟩
    | cons other l => exact ⟨next?_cons_of_some h.1, ih h.2⟩

/-- The list of the indexes starts with the first index. -/
theorem enumerate_eq_origin_cons {shape : List Nat} (h : 0 ∉ shape) :
    ∃ rest, enumerate shape = origin shape :: rest := by
  induction shape with
  | nil => exact ⟨[], rfl⟩
  | cons n ns ih =>
    rw [List.mem_cons, not_or] at h
    obtain ⟨rest, hr⟩ := ih h.2
    obtain ⟨m, rfl⟩ := Nat.exists_eq_succ_of_ne_zero (Ne.symm h.1)
    rw [enumerate, List.range_succ_eq_map, List.flatMap_cons, hr]
    exact ⟨_, rfl⟩

/-- The blocks of indexes from one position of the first dimension on. -/
def blocks (ns : List Nat) (i count : Nat) : List (List Nat) :=
  (List.range' i count).flatMap fun i => (enumerate ns).map (i :: ·)

/-- Some blocks are the first of them and the others. -/
theorem blocks_succ (ns : List Nat) (i count : Nat) :
    blocks ns i (count + 1) = (enumerate ns).map (i :: ·) ++ blocks ns (i + 1) count := by
  rw [blocks, List.range'_succ, List.flatMap_cons, blocks]

/-- **The odometer runs through the blocks** one after the other if it runs through each. -/
theorem runs_blocks {n : Nat} {ns : List Nat} (h : 0 ∉ ns) (hr : Runs ns (enumerate ns))
    (count i : Nat) (hi : i + (count + 1) = n) : Runs (n :: ns) (blocks ns i (count + 1)) := by
  induction count generalizing i with
  | zero =>
    rw [blocks, List.range'_one, List.flatMap_singleton]
    exact runs_map_last hr (by omega)
  | succ count ih =>
    have ih := ih (i + 1) (by omega)
    -- the next block starts with the first index of the other dimensions
    obtain ⟨rest, hn⟩ : ∃ rest, blocks ns (i + 1) (count + 1) = ((i + 1) :: origin ns) :: rest := by
      obtain ⟨rest, hc⟩ := enumerate_eq_origin_cons h
      rw [blocks_succ, hc]
      exact ⟨_, rfl⟩
    rw [blocks_succ, hn]
    exact runs_map_append hr (by omega) (hn ▸ ih)

/-- **The odometer runs through the indexes** of a shape in lexicographic order. -/
theorem runs_enumerate {shape : List Nat} (h : 0 ∉ shape) : Runs shape (enumerate shape) := by
  induction shape with
  | nil => rfl
  | cons n ns ih =>
    rw [List.mem_cons, not_or] at h
    obtain ⟨m, rfl⟩ := Nat.exists_eq_succ_of_ne_zero (Ne.symm h.1)
    rw [enumerate, List.range_eq_range']
    exact runs_blocks h.2 (ih h.2) m 0 (Nat.zero_add _)

end Shape
end MemoryLease
