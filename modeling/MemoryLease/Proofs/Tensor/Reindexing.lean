import MemoryLease.Proofs.Tensor.Walk
import MemoryLease.Session.Values

/-!
# Handles to the same items

A handle that is derived from a tensor shows some of its items, at other indexes: every so many
items along an axis, or the axes in reverse.  Where the item of an index stands in the tensor that
the handle is derived from is told by `Session.Derivation.origin`, and along a whole chain of
derivations by `Tensor.rootIndex`.  The handle at the end of the chain finds each item where the
tensor at its start finds it, and no item at two indexes (`Tensor.Shows`, `Tensor.shows_derived`).
-/

namespace MemoryLease

namespace Session.Derivation

/-- The handle that a derivation makes of a tensor. -/
def tensor : Derivation → Tensor → Except Fault Tensor
  | .same, t => .ok t
  | .step axis every, t => t.step axis every
  | .transpose, t => .ok t.transpose
  | .readOnly, t => .ok t.asReadOnly

/-- Where the item of an index of the derived handle stands in the tensor. -/
def origin : Derivation → List Nat → List Nat
  | .step axis every, index => index.modify axis (· * every)
  | .transpose, index => index.reverse
  | .same, index | .readOnly, index => index

/-- Every derivation can be made from a tensor, or faults. -/
theorem source?_tensor (d : Derivation) (t : Tensor) :
    d.source? (.tensor t) = some ((d.tensor t).map .tensor) := by
  cases d <;> rfl

end Session.Derivation

/-! ### Every so many positions of an axis -/

namespace Shape

variable {shape index other : List Nat} {axis extent every : Nat}

/-- The positions that are kept of an axis are those whose multiples are inside it. -/
theorem inBounds_modify_iff (hn : shape[axis]? = some extent) (hk : 0 < every) :
    InBounds (shape.set axis ((extent + every - 1) / every)) index ↔
      InBounds shape (index.modify axis (· * every)) := by
  induction shape generalizing axis index with
  | nil => simp at hn
  | cons n ns ih =>
    cases index with
    | nil =>
      rw [List.modify_nil]
      cases axis <;> exact Iff.rfl
    | cons i is =>
      cases axis with
      | zero =>
        obtain rfl : n = extent := by simpa using hn
        have kept : i < (n + every - 1) / every ↔ i * every < n := by
          rw [← Nat.succ_le_iff, Nat.le_div_iff_mul_le hk, Nat.succ_mul]
          omega
        exact and_congr_left' kept
      | succ axis => exact and_congr_right' (ih (by simpa using hn))

/-- Positions that are equal after multiplication were equal before. -/
theorem modify_mul_injective (hk : 0 < every)
    (h : index.modify axis (· * every) = other.modify axis (· * every)) : index = other := by
  have hl : index.length = other.length := by simpa using congrArg List.length h
  apply List.ext_getElem hl
  intro d h₁ h₂
  have hd := congrArg (·[d]?) h
  simp only [List.getElem?_modify, List.getElem?_eq_getElem h₁, List.getElem?_eq_getElem h₂,
    Option.map_eq_map, Option.map_some, Option.some.injEq] at hd
  split at hd
  · exact Nat.eq_of_mul_eq_mul_right hk hd
  · exact hd

end Shape

/-- A stride that is taken so many times at once takes each position as far. -/
theorem Strides.offsetOf_set_modify {strides : List Int} {axis : Nat} {stride : Int}
    (hs : strides[axis]? = some stride) (every : Nat) (index : List Nat) :
    offsetOf (strides.set axis (stride * every)) index =
      offsetOf strides (index.modify axis (· * every)) := by
  induction strides generalizing axis index with
  | nil => simp at hs
  | cons s ss ih =>
    cases index with
    | nil =>
      rw [List.modify_nil]
      cases axis <;> rfl
    | cons i is =>
      cases axis with
      | zero =>
        obtain rfl : s = stride := by simpa using hs
        show (i : Int) * (s * every) + offsetOf ss is = ((i * every : Nat) : Int) * s +
          offsetOf ss is
        push_cast
        ring
      | succ axis =>
        show (i : Int) * s + offsetOf (ss.set axis (stride * every)) is =
          i * s + offsetOf ss (is.modify axis (· * every))
        rw [ih (by simpa using hs)]

namespace Tensor

open Session (Derivation)
open Shape (InBounds)
open Strides (offsetOf)

/-! ### What a handle shows of another -/

/-- A handle shows items of a tensor, each of them once: the item of an index is the one at the
index of the tensor that a map takes it to. -/
structure Shows (t root : Tensor) (origin : List Nat → List Nat) : Prop where
  memory : t.memory = root.memory
  inBounds : ∀ index, InBounds t.shape index → InBounds root.shape (origin index)
  injective : ∀ index other, InBounds t.shape index → InBounds t.shape other →
    origin index = origin other → index = other
  offsetOf : ∀ index, InBounds t.shape index →
    offsetOf t.strides index = offsetOf root.strides (origin index)

variable {t u root : Tensor} {m : Memory}

namespace Shows

/-- A tensor shows its own items. -/
theorem refl (t : Tensor) : t.Shows t id where
  memory := rfl
  inBounds := fun _ hb => hb
  injective := fun _ _ _ _ h => h
  offsetOf := fun _ _ => rfl

/-- What shows the items of what shows the items of a third tensor shows those. -/
theorem trans {first second : List Nat → List Nat} (h : t.Shows u second)
    (h' : u.Shows root first) : t.Shows root (first ∘ second) where
  memory := h.memory.trans h'.memory
  inBounds := fun index hb => h'.inBounds _ (h.inBounds index hb)
  injective := fun index other hb hb' he =>
    h.injective index other hb hb' (h'.injective _ _ (h.inBounds _ hb) (h.inBounds _ hb') he)
  offsetOf := fun index hb => (h.offsetOf index hb).trans (h'.offsetOf _ (h.inBounds index hb))

end Shows

/-- A step shows every so many items along its axis. -/
theorem shows_step {axis every : Nat} (h : t.step axis every = .ok u) :
    u.Shows t (Derivation.step axis every).origin := by
  obtain ⟨hk, extent, stride, hn, hs, rfl⟩ := step_eq_ok h
  refine ⟨rfl, fun index => (Shape.inBounds_modify_iff hn hk).1,
    fun index other _ _ he => Shape.modify_mul_injective hk he, fun index _ => ?_⟩
  exact Strides.offsetOf_set_modify hs every index

/-- The transpose shows the items under the reversed index. -/
theorem shows_transpose (hl : t.strides.length = t.shape.length) :
    t.transpose.Shows t Derivation.transpose.origin := by
  have back : ∀ index, InBounds t.transpose.shape index → InBounds t.shape index.reverse := by
    intro index hb
    rwa [← Shape.inBounds_reverse, List.reverse_reverse]
  refine ⟨rfl, back, fun index other _ _ he => List.reverse_inj.1 he, fun index hb => ?_⟩
  have reversed := Strides.offsetOf_reverse ((back index hb).length_eq.trans hl.symm)
  rwa [List.reverse_reverse] at reversed

/-- **One derivation** shows the items of the tensor that it is made from. -/
theorem shows_of_derivation {d : Derivation} (h : d.tensor t = .ok u) (fits : t.Fits m) :
    u.Fits m ∧ u.Shows t d.origin := by
  cases d with
  | same =>
    cases h
    exact ⟨fits, .refl t⟩
  | step axis every => exact ⟨fits.step h, shows_step h⟩
  | transpose =>
    cases h
    exact ⟨fits.transpose, shows_transpose fits.strides_length⟩
  | readOnly =>
    cases h
    exact ⟨fits.asReadOnly, ⟨rfl, fun _ hb => hb, fun _ _ _ _ he => he, fun _ _ => rfl⟩⟩

/-- What is derived from a tensor that fits does fit. -/
theorem Fits.derived {d : Derivation} (fits : t.Fits m) (h : d.tensor t = .ok u) : u.Fits m :=
  (shows_of_derivation h fits).1

/-- A derivation leads to a tensor in the same memory. -/
theorem memory_of_derivation {d : Derivation} (h : d.tensor t = .ok u) : u.memory = t.memory := by
  cases d with
  | step => exact memory_of_step h
  | _ =>
    cases h
    rfl

/-! ### Chains of derivations -/

/-- The handle at the end of a chain of derivations. -/
def derived (t : Tensor) : List Derivation → Except Fault Tensor
  | [] => .ok t
  | d :: chain =>
    match d.tensor t with
    | .error fault => .error fault
    | .ok t => t.derived chain

/-- Where the item of an index of the handle at the end of a chain stands in the tensor at its
start. -/
def rootIndex (chain : List Derivation) (index : List Nat) : List Nat :=
  chain.foldr Derivation.origin index

/-- A chain of derivations is the first one and the others. -/
theorem derived_cons_eq_ok_iff {d : Derivation} {chain : List Derivation} :
    root.derived (d :: chain) = .ok t ↔
      ∃ u, d.tensor root = .ok u ∧ u.derived chain = .ok t := by
  rw [derived]
  cases d.tensor root <;> simp

/-- A handle that is derived from the end of a chain is the end of a longer one. -/
theorem derived_append {d : Derivation} {chain : List Derivation}
    (h : root.derived chain = .ok u) (hd : d.tensor u = .ok t) :
    root.derived (chain ++ [d]) = .ok t := by
  induction chain generalizing root with
  | nil =>
    obtain rfl := Except.ok.inj h
    exact derived_cons_eq_ok_iff.2 ⟨t, hd, rfl⟩
  | cons d' chain ih =>
    obtain ⟨next, hn, hc⟩ := derived_cons_eq_ok_iff.1 h
    exact derived_cons_eq_ok_iff.2 ⟨next, hn, ih hc⟩

/-- **A whole chain** shows the items of the tensor at its start. -/
theorem shows_derived {chain : List Derivation} (h : root.derived chain = .ok t)
    (fits : root.Fits m) : t.Fits m ∧ t.Shows root (rootIndex chain) := by
  induction chain generalizing root with
  | nil =>
    obtain rfl := Except.ok.inj h
    exact ⟨fits, .refl root⟩
  | cons d chain ih =>
    obtain ⟨next, hd, hc⟩ := derived_cons_eq_ok_iff.1 h
    obtain ⟨fits, first⟩ := shows_of_derivation hd fits
    obtain ⟨fits, rest⟩ := ih hc fits
    exact ⟨fits, rest.trans first⟩

example : rootIndex [.step 0 2, .transpose, .step 0 3] [1, 1] = [2, 3] := by decide

/-! ### Reading -/

/-- A handle reads the item of an index where the tensor that it shows reads it. -/
theorem Shows.item_eq {origin : List Nat → List Nat} (h : t.Shows root origin) {index : List Nat}
    (hb : InBounds t.shape index) (m : Memory) : t.item m index = root.item m (origin index) := by
  rw [item, item, h.offsetOf index hb]

end Tensor
end MemoryLease
