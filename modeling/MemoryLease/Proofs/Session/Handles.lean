import MemoryLease.Proofs.Session.Contents
import MemoryLease.Proofs.Tensor.Views
import MemoryLease.Proofs.Tensor.Writing

/-!
# The handles to one tensor

All handles to the memory of a tensor are derived from the one that it has been made with
(`after_roots`), so each of them shows items of that one, at the indexes that its chain of
derivations tells.  In every session the handles of a tensor are therefore so many ways to number
the same items (`derived_handles_share_items`): they read the same values, and what is written
through one of them is read through all the others, at the indexes that stand for the item and
nowhere else.
-/

namespace MemoryLease
namespace Session

open Shape (InBounds)

variable {s s' : Session} {t : Step} {es : List Event} {name : String} {root u : Tensor}

/-! ### Where handles come from -/

/-- Every handle to the memory of a tensor is derived from it. -/
def Roots (s : Session) (root : Tensor) : Prop :=
  ∀ name u, (name, Value.source (.tensor u)) ∈ s.values → u.memory = root.memory →
    ∃ chain, root.derived chain = .ok u

/-- **Every move keeps** what the handles to the memory of a tensor are derived from. -/
theorem Move.roots (m : Move s t es s') (present : root.memory < s.store.memories.length)
    (h : s.Roots root) : s'.Roots root := by
  intro name u hu same
  rcases m.tensor_cases hu with ⟨origin, derivation, u', hm, made⟩ | ⟨new, -⟩
  · have shared : u.memory = u'.memory := Tensor.memory_of_derivation made
    obtain ⟨chain, hc⟩ := h origin u' hm (shared.symm.trans same)
    exact ⟨chain ++ [derivation], Tensor.derived_append hc made⟩
  · rw [← same, new] at present
    exact absurd present (Nat.lt_irrefl _)

/-- Every handle to the memory of a tensor is derived from that tensor for good. -/
theorem after_roots (hs : s.Laid) (rests : s.Rests root) (h : s.Roots root) (steps : List Step) :
    (s.after steps).Roots root :=
  (after_keeps (P := fun s => s.Rests root ∧ s.Roots root)
    (fun m _ ⟨rests, roots⟩ => ⟨m.rests rests, m.roots rests.present roots⟩)
    hs.sound ⟨rests, h⟩ steps).2

/-! ### Making a tensor -/

/-- A tensor that is made lies in a memory of its own without gaps. -/
theorem layOut_of_value {s store : Store} {creation : Creation}
    (h : creation.value s = .ok (store, .source (.tensor root))) :
    ∃ m order, store = s.addMemory m ∧
      Tensor.layOut s.memories.length m.item root.shape order = .ok root := by
  cases creation with
  | zeros item shape order =>
    obtain ⟨⟨m, t⟩, hm, he⟩ := map_eq_ok_iff.1 h
    cases he
    obtain ⟨-, -, -, -, laid⟩ := Tensor.zeros_eq_ok hm
    obtain ⟨-, rfl, -⟩ := Tensor.layOut_eq_ok laid
    exact ⟨m, order, rfl, laid⟩
  | items item values shape order =>
    obtain ⟨⟨m, t⟩, hm, he⟩ := map_eq_ok_iff.1 h
    cases he
    obtain ⟨-, -, -, -, laid⟩ := Tensor.ofItems_eq_ok hm
    obtain ⟨-, rfl, -⟩ := Tensor.layOut_eq_ok laid
    exact ⟨m, order, rfl, laid⟩
  | bytes | zeroed | frozen =>
    obtain ⟨m, -, he⟩ := map_eq_ok_iff.1 h
    cases he
  | foreign | plain => cases h

/-- **A tensor that is made** is the only handle to its memory, and its items share no byte. -/
theorem create_roots (hs : s.Laid) {creation : Creation} {a : Answer}
    (hr : (s.step (.create name creation)).reply = .answer a)
    (of : (s.step (.create name creation)).session.value? name = some (.source (.tensor root))) :
    let made := (s.step (.create name creation)).session
    made.Roots root ∧ root.Apart (made.store.memory root.memory).item.size := by
  obtain ⟨store, v, hv, untaken, session⟩ := created_of_reply hr
  rw [session] at of ⊢
  have self := Names.lookup?_add_self (isTaken_eq_false_iff.1 untaken).1 v
  obtain rfl : v = .source (.tensor root) := Option.some.inj (self.symm.trans of)
  obtain ⟨m, order, rfl, laid⟩ := layOut_of_value hv
  have new : root.memory = s.store.memories.length := (Tensor.layOut_eq_ok laid).1
  refine ⟨fun other u hu same => ?_, ?_⟩
  · rcases Names.mem_of_mem_add hu with hu | hu
    · have older : u.memory < s.store.memories.length := hs.sound.sources other _ hu
      rw [same, new] at older
      exact absurd older (Nat.lt_irrefl _)
    · cases hu
      exact ⟨[], rfl⟩
  · show root.Apart ((s.store.addMemory m).memory root.memory).item.size
    rw [new, Store.memory_addMemory]
    exact Tensor.apart_of_layOut laid

/-! ### Handles to the same items -/

/-- **The handles of a tensor share its items.**  A tensor is made, and then anything may happen.
Every handle to its memory is derived from it.  A handle at the end of a chain of derivations shows
items of the tensor, each of them once, and reads at an index what the tensor reads where the chain
takes the index.  No two items of the tensor share a byte.  An item that is written through one
handle is read through every other one at the indexes that stand for it, and at all other indexes
every handle reads what it has read before. -/
theorem derived_handles_share_items (before later : List Step) {creation : Creation} {a : Answer}
    (created : ((after {} before).step (.create name creation)).reply = .answer a)
    (of : ((after {} before).step (.create name creation)).session.value? name =
      some (.source (.tensor root))) :
    let s := after {} (before ++ .create name creation :: later)
    let m := s.store.memory root.memory
    (∀ other u, s.value? other = some (.source (.tensor u)) → u.memory = root.memory →
      ∃ chain, root.derived chain = .ok u) ∧
    root.Apart m.item.size ∧
    ∀ chain u, root.derived chain = .ok u →
      u.Shows root (Tensor.rootIndex chain) ∧
      (∀ index, InBounds u.shape index → ∃ value, u.get m index = .ok value ∧
        root.get m (Tensor.rootIndex chain index) = .ok value) ∧
      ∀ chain' u', root.derived chain' = .ok u' → ∀ index value m', m.item.Holds value →
        u.set m index value = (m', .ok ()) →
        InBounds u.shape index ∧ ∀ other, InBounds u'.shape other →
          u'.get m' other = if Tensor.rootIndex chain' other = Tensor.rootIndex chain index
            then .ok value else u'.get m other := by
  have laid : (after {} before).Laid := after_laid laid_empty before
  have made : ((after {} before).step (.create name creation)).session.Laid :=
    (step_move laid.sound _).laid laid
  obtain ⟨roots, apart⟩ := create_roots laid created of
  obtain ⟨rests, place⟩ := after_rests made (made.rests_of_value? of) later
  have roots := after_roots made (made.rests_of_value? of) roots later
  rw [← place.item] at apart
  rw [after_append, after_cons]
  intro s m
  refine ⟨fun other u hu same => roots other u (Names.mem_of_lookup? hu) same, apart,
    fun chain u hu => ?_⟩
  obtain ⟨fits, displays⟩ := Tensor.shows_derived hu rests.fits
  refine ⟨displays, fun index hb => ?_, fun chain' u' hu' index value m' holds hset => ?_⟩
  · refine ⟨_, fits.get_eq rests.unpoisoned hb, ?_⟩
    rw [rests.fits.get_eq rests.unpoisoned (displays.inBounds index hb), displays.item_eq hb]
  · obtain ⟨fits', displays'⟩ := Tensor.shows_derived hu' rests.fits
    exact ⟨(fits.set_eq_ok hset).1, fun other hb =>
      Tensor.get_after_set fits fits' displays displays' apart holds hset hb⟩

/-- Every other row of a tensor, with the axes in reverse: what is written there at `[1, 1]` is read
from the tensor at `[2, 1]`, and the item at `[2, 2]` is as it was. -/
theorem derived_handles_share_items_transposed :
    let s := Session.after {} [.create "tensor" (.zeros .uint16 [4, 3] .rowMajor),
      .call "tensor" (.set [2, 2] 9)]
    let root : Tensor := { memory := 0, shape := [4, 3], strides := [6, 2] }
    let every : Tensor := { memory := 0, shape := [3, 2], strides := [2, 12] }
    ∃ m', every.set (s.store.memory 0) [1, 1] 7 = (m', .ok ()) ∧ root.get m' [2, 1] = .ok 7 ∧
      root.get m' [2, 2] = root.get (s.store.memory 0) [2, 2] := by
  obtain ⟨-, -, shared⟩ := @derived_handles_share_items "tensor"
    { memory := 0, shape := [4, 3], strides := [6, 2] } []
    [.call "tensor" (.set [2, 2] 9)] (.zeros .uint16 [4, 3] .rowMajor) _ rfl rfl
  obtain ⟨-, -, written⟩ := shared [.step 0 2, .transpose]
    { memory := 0, shape := [3, 2], strides := [2, 12] } rfl
  obtain ⟨-, read⟩ := written [] { memory := 0, shape := [4, 3], strides := [6, 2] } rfl
    [1, 1] 7 _ (by decide) rfl
  exact ⟨_, rfl, read [2, 1] (by decide), read [2, 2] (by decide)⟩

/-! ### Chains that make the same handle -/

/-- **Derivations rearrange.**  Two steps along an axis make the handle that one step by their
product makes, as long as the product is one that a step can be by.  Steps along two axes make the
same handle in either order, and if one order faults, so does the other.  A step and reversing the
axes change places when the step goes along with its axis.  Reversing the axes twice changes
nothing, and doing it once exchanges the orders in which the tensor is contiguous. -/
theorem derivations_rearrange {steps : List Step}
    (of : (after {} steps).value? name = some (.source (.tensor u))) :
    (∀ axis first second v, u.derived [.step axis (first * second)] = .ok v ↔
      u.derived [.step axis first, .step axis second] = .ok v ∧
        ((first * second : Nat) : Int) ≤ offsetMax) ∧
    (∀ axis other first second v, axis ≠ other →
      (u.derived [.step axis first, .step other second] = .ok v ↔
        u.derived [.step other second, .step axis first] = .ok v)) ∧
    (∀ axis every v, axis < u.dimensions →
      (u.derived [.step axis every, .transpose] = .ok v ↔
        u.derived [.transpose, .step (u.dimensions - 1 - axis) every] = .ok v)) ∧
    u.derived [.transpose, .transpose] = .ok u ∧
    ∀ item, u.transpose.isContiguous item .rowMajor = u.isContiguous item .columnMajor ∧
      u.transpose.isContiguous item .columnMajor = u.isContiguous item .rowMajor := by
  have fits := ((after_laid laid_empty steps).rests_of_value? of).fits
  refine ⟨fun axis first second v => ?_, fun axis other first second v => Tensor.derived_step_comm,
    fun axis every v => Tensor.derived_step_transpose_iff fits.strides_length, ?_, fun item => ?_⟩
  · rw [Tensor.derived_singleton_eq_ok_iff]
    exact Tensor.step_mul_eq_ok_iff
  · exact congrArg Except.ok u.transpose_transpose
  · have back := Tensor.isContiguous_transpose fits.transpose.strides_length item
    rw [Tensor.transpose_transpose] at back
    exact ⟨Tensor.isContiguous_transpose fits.strides_length item, back.symm⟩

/-- Every sixth of seven rows in one step or in two, and every other column before the axes are
reversed or after. -/
theorem derivations_rearrange_columns :
    let u : Tensor := { memory := 0, shape := [7, 4], strides := [8, 2] }
    u.derived [.step 0 2, .step 0 3] =
      .ok { memory := 0, shape := [2, 4], strides := [48, 2] } ∧
    u.derived [.step 1 2, .step 0 6] = u.derived [.step 0 6, .step 1 2] ∧
    u.derived [.transpose, .step 0 2] =
      .ok { memory := 0, shape := [2, 7], strides := [4, 8] } ∧
    u.transpose.isContiguous .uint16 .columnMajor = true := by
  have of : (after {} [.create "tensor" (.zeros .uint16 [7, 4] .rowMajor)]).value? "tensor" =
    some (.source (.tensor { memory := 0, shape := [7, 4], strides := [8, 2] })) := rfl
  obtain ⟨product, commute, along, -, orders⟩ := derivations_rearrange of
  refine ⟨((product 0 2 3 _).1 rfl).1, (commute 1 0 2 6 _ (by decide)).2 rfl,
    (along 1 2 _ (by decide)).1 rfl, ?_⟩
  rw [(orders .uint16).2]
  rfl

end Session
end MemoryLease
