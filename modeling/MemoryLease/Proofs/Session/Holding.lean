import Mathlib.Data.List.Induction
import MemoryLease.Proofs.Session.Keeping
import MemoryLease.Proofs.Session.Tensors

/-!
# Views in the hands of a session

A pointer or a view that a session holds has been acquired by one of its steps, and the lease of it
has been outstanding ever since.  So the memory has stayed in place since, whoever has tried to
resize it, and it has not been freed, whichever handles have gone (`held_view_within_memory`), and
what foreign code reads through the view of a tensor is what the tensor reads itself
(`held_view_reads_tensor`).
-/

namespace MemoryLease
namespace Session

open Shape (InBounds)

variable {s s' : Session} {t : Step} {es : List Event} {name origin : String} {request : Request}
  {source : Source} {h : Hold} {e : ExportedView}

/-! ### Where a held view comes from -/

/-- What holds a view after a move has held it before, or has been acquired by the move. -/
theorem Move.hold_cases (m : Move s t es s') (hh : s'.hold? name = some h)
    (he : h.exported? = some e) :
    s.hold? name = some h ∨ ∃ origin request source, t = .acquire name origin request ∧
      s.isTaken name = false ∧ s.value? origin = some (.source source) ∧
      s.store.Acquires request.contract source e ∧ h = request.holding e ∧
      ∀ id, (s.store.memory id).InPlace (s'.store.memory id) := by
  cases m with
  | @take n origin request source e' untaken of acquires =>
    rcases Names.lookup?_of_add (isTaken_eq_false_iff.1 untaken).2 hh with before | ⟨rfl, rfl⟩
    · exact .inl before
    · rw [Request.exported?_holding] at he
      obtain rfl := Option.some.inj he
      exact .inr ⟨origin, request, source, rfl, untaken, of, acquires, rfl,
        Store.inPlace_enter s.store _ _⟩
  | @release n p of =>
    by_cases hn : n = name
    · subst hn
      have hself : some (Hold.pointer ⟨p.origin, none⟩) = some h :=
        (Names.lookup?_replace_self of _).symm.trans hh
      obtain rfl := Option.some.inj hself
      cases he
    · exact .inl ((Names.lookup?_replace_of_ne _ hn _).symm.trans hh)
  | consume => exact .inl (Names.lookup?_of_remove hh)
  | forget => exact .inl (Names.lookup?_of_remove hh)
  | _ => exact .inl hh

/-- **A held view has been acquired** by a step of the session, is held since, and its memory has
stayed in place since. -/
theorem held_since {steps : List Step} (hh : (after {} steps).hold? name = some h)
    (he : h.exported? = some e) :
    ∃ before origin request source later, steps = before ++ .acquire name origin request :: later ∧
      (after {} before).value? origin = some (.source source) ∧
      (after {} before).store.Acquires request.contract source e ∧ h = request.holding e ∧
      (∀ done, done <+: later →
        (after {} (before ++ .acquire name origin request :: done)).hold? name = some h) ∧
      ∀ id w, e.lease = .memory id w →
        ((after {} before).store.memory id).InPlace ((after {} steps).store.memory id) := by
  induction steps using List.reverseRecOn with
  | nil => cases hh
  | append_singleton steps t ih =>
    have hs : (after {} steps).Sound := after_sound sound_empty steps
    have hstep : after {} (steps ++ [t]) = ((after {} steps).step t).session := by
      rw [after_append, after_singleton]
    rw [hstep] at hh
    have hm := step_move hs t
    rcases hm.hold_cases hh he with hprev | ⟨origin, request, source, rfl, -, of, ha, rfl, hp⟩
    · obtain ⟨before, origin, request, source, later, rfl, of, ha, rfl, hd, hp⟩ := ih hprev
      refine ⟨before, origin, request, source, later ++ [t], by simp, of, ha, rfl, ?_, ?_⟩
      · intro done hpre
        rcases List.prefix_concat_iff.1 hpre with rfl | hpre
        · rw [← List.cons_append, ← List.append_assoc, hstep]
          exact hh
        · exact hd done hpre
      · intro id w hl
        have hu : Lease.memory id w ∈
            (after {} (before ++ .acquire name origin request :: later)).unreturned :=
          lease_mem_unreturned hprev (by rw [Request.lease?_holding, hl])
        rw [hstep]
        exact (hp id w hl).trans (hm.inPlace_of_views_pos (hs.canRepay hu).2)
    · refine ⟨steps, origin, request, source, [], rfl, of, ha, rfl, ?_, fun id w _ => ?_⟩
      · intro done hpre
        rw [List.prefix_nil.1 hpre, hstep]
        exact hh
      · rw [hstep]
        exact hp id

/-! ### The memory of a held view -/

/-- **A held view stays inside its memory.**  The memory of a view that a session holds has not been
freed, whichever handles to it have gone.  It is where it was when the view was acquired, and as
large as it was, and every item that the view describes, by shape and strides or as a run of bytes,
lies within it.  The view of a buffer is as long as the buffer is. -/
theorem held_view_within_memory {steps : List Step} {id : Nat} {w : Bool}
    (held : (after {} steps).hold? name = some h) (unreleased : h.exported? = some e)
    (lease : e.lease = .memory id w) :
    ∃ before origin request source later, steps = before ++ .acquire name origin request :: later ∧
      (after {} before).value? origin = some (.source source) ∧ source.memory? = some id ∧
      h = request.holding e ∧
      (∀ done, done <+: later →
        (after {} (before ++ .acquire name origin request :: done)).hold? name = some h) ∧
      let m₀ := (after {} before).store.memory id
      let m := (after {} steps).store.memory id
      id ∉ (after {} steps).store.freed ∧
      m.base id = m₀.base id ∧ m.size = m₀.size ∧ e.view.address = m.base id ∧
      (∀ strides, e.view.strides = some strides → ∃ shape, e.view.shape = some shape ∧
        ∀ index, InBounds shape index → 0 ≤ Strides.offsetOf strides index ∧
          Strides.offsetOf strides index + e.view.itemSize ≤ m.size) ∧
      (e.view.strides = none → e.view.length ≤ m.size) ∧
      ∀ b, source = .buffer b → m.length = .ok e.view.length := by
  obtain ⟨before, origin, request, source, later, rfl, of, ha, rfl, hd, hp⟩ :=
    held_since held unreleased
  obtain ⟨-, unfreed, -⟩ := held_memory_lives held (Hold.memory?_of_exported? unreleased lease)
  obtain ⟨owned, -, r, hr, hn⟩ := ha.owned lease
  have hp := hp id w lease
  have hl : (after {} before).Laid := after_laid laid_empty before
  have fits : ∀ u, source = .tensor u → u.Fits ((after {} before).store.memory id) := by
    rintro u rfl
    obtain rfl := Option.some.inj owned
    exact (hl.rests_of_value? of).fits
  obtain ⟨wf, hb, hi⟩ := Source.region_inside owned hr fits
  rw [← hp.size] at hi
  refine ⟨before, origin, request, source, later, rfl, of, owned, rfl, hd, unfreed, hp.base id,
    hp.size, ?_, ?_, wf.bytes_inside hn hi, ?_⟩
  · rw [Region.address_of_negotiate hn, hb, hp.base]
  · intro strides hv
    exact ⟨_, wf.items_inside hn hi hv⟩
  · rintro b rfl
    obtain ⟨-, -, hlen, -⟩ := Buffer.region_eq_ok hr
    have hs : (after {} (before ++ .acquire name origin request :: later)).Sound :=
      after_sound sound_empty _
    have hu := lease_mem_unreturned held (l := .memory id w)
      (by rw [Request.lease?_holding, lease])
    have hm := (hs.canRepay hu).1
    rw [Memory.length_of_unpoisoned hm, Region.length_of_negotiate hn, hlen, ← hp.size]

/-- A pointer keeps the memory of a buffer in place: while it is held the buffer cannot be resized,
and the memory is still there when the buffer is gone. -/
theorem held_view_within_memory_dropped_buffer :
    let s := Session.after {} [.create "buffer" (.zeroed 4),
      .acquire "pointer" "buffer" .simplePointer, .call "buffer" (.resize 9), .drop "buffer"]
    s.value? "buffer" = none ∧
      ∃ h e, s.hold? "pointer" = some h ∧ h.exported? = some e ∧ e.lease = .memory 0 false ∧
        0 ∉ s.store.freed ∧ e.view.address = (s.store.memory 0).base 0 ∧
        (s.store.memory 0).length = .ok 4 := by
  have held : (Session.after {} [.create "buffer" (.zeroed 4),
      .acquire "pointer" "buffer" .simplePointer, .call "buffer" (.resize 9),
      .drop "buffer"]).hold? "pointer" =
    some (.pointer (.ofView ⟨⟨.heap 0 0, 4, 1, 1, false, none, none, none, none⟩,
      .memory 0 false⟩)) := rfl
  obtain ⟨before, origin, request, source, later, -, -, -, -, -, unfreed, -, -, ha, -⟩ :=
    held_view_within_memory held rfl rfl
  exact ⟨rfl, _, _, held, rfl, rfl, unfreed, ha, rfl⟩

/-! ### Reading through a held view -/

/-- A step that answers with a view has acquired it. -/
theorem acquired_of_reply {v : MemoryView}
    (hr : (s.step (.acquire name origin request)).reply = .answer (.view v)) :
    ∃ source e, s.value? origin = some (.source source) ∧
      s.store.Acquires request.contract source e ∧ e.view = v ∧
      (s.step (.acquire name origin request)).session.hold? name = some (request.holding e) := by
  rcases acquire_step s name origin request with invalid | ⟨value, untaken, of, asked⟩
  · rw [invalid] at hr
    cases hr
  · rw [asked, acquire_eq name of] at hr ⊢
    cases made : (s.store.acquire value request.contract).result with
    | error failure =>
      simp only [made] at hr
      cases hr
    | ok e =>
      obtain ⟨source, rfl, ha⟩ := Store.acquires_of_eq_ok made
      simp only [made, Reply.answer.injEq, Answer.view.injEq] at hr ⊢
      exact ⟨source, e, of, ha, hr,
        Names.lookup?_add_self (isTaken_eq_false_iff.1 untaken).2 _⟩

/-- **Foreign code reads what the tensor reads.**  Whatever chain of handles a tensor comes from and
whatever a view of it has been requested for: as long as the name still stands for what has been
acquired, foreign code that has the view alone finds the items of the tensor at the addresses that
the view describes, in the order in which the tensor lists them itself. -/
theorem held_view_reads_tensor (before later : List Step) {u : Tensor} {v : MemoryView}
    (of : (after {} before).value? origin = some (.source (.tensor u)))
    (acquired : ((after {} before).step (.acquire name origin request)).reply =
      .answer (.view v))
    (held : (after {} (before ++ .acquire name origin request :: later)).hold? name =
      ((after {} before).step (.acquire name origin request)).session.hold? name) :
    let s := after {} (before ++ .acquire name origin request :: later)
    let m := s.store.memory u.memory
    ∃ values, v.address = m.base u.memory ∧ v.itemSize = m.item.size ∧
      v.itemOffsets.mapM (m.peek m.item) = some values ∧ u.toList m = .ok values ∧
      (s.step (.use name .walk)).reply = .answer (.items m.item values) ∧
      ∀ other, s.value? other = some (.source (.tensor u)) →
        (s.step (.call other .contents)).reply = .answer (.items m.item values) := by
  obtain ⟨source, e, of', ha, rfl, hnew⟩ := acquired_of_reply acquired
  obtain rfl : source = .tensor u := by
    rw [of] at of'
    exact (Value.source.inj (Option.some.inj of')).symm
  rw [hnew] at held
  have hl := ha.lease_eq rfl
  obtain ⟨-, -, r, hr, hn⟩ := ha.owned hl
  have laid : (after {} before).Laid := after_laid laid_empty before
  obtain ⟨rests, hp⟩ := after_rests laid (laid.rests_of_value? of)
    (.acquire name origin request :: later)
  rw [← after_append] at rests hp
  intro s m
  -- the region that the tensor states now is the one that has been negotiated
  have hr : u.region m = .ok r := by
    rw [Tensor.region_inPlace hp]
    exact hr
  obtain ⟨wf, hb, hi, hsh, -⟩ := Tensor.region_eq_ok hr
  have hc : Shape.count? u.shape = some u.shape.prod := by
    have := Shape.count?_of_byteLength? wf.byteLength
    rwa [hsh] at this
  have hlist := rests.fits.toList_eq rests.unpoisoned hc
  have hwalk := rests.fits.walked_eq hr hn
  refine ⟨_, ?_, ?_, hwalk, hlist, ?_, fun other ho => ?_⟩
  · rw [Region.address_of_negotiate hn, hb]
  · rw [Region.itemSize_of_negotiate hn, hi]
  · have hw : s.walk (request.holding e) =
        .answer (.items m.item ((Shape.enumerate u.shape).map (u.item m))) := by
      obtain ⟨-, -, reached⟩ :=
        held_memory_lives held (Hold.memory?_of_exported? (Request.exported?_holding e request) hl)
      simp only [walk, shown_holding, show s.reached? (request.holding e) = _ from reached]
      rw [show walked (s.store.memory u.memory) e.view = _ from hwalk]
    have hu : (s.step (.use name .walk)).reply = s.walk (request.holding e) := by
      rw [step_use, use, show s.hold? name = _ from held]
      rfl
    rw [hu, hw]
  · rw [step_call, call, ho]
    simp only [callTensor]
    rw [show u.toList (s.store.memory u.memory) = _ from hlist]
    rfl

/-- A view of the transpose of a tensor, and an item that is written through the tensor while the
view is held. -/
theorem held_view_reads_tensor_transposed :
    let s := Session.after {} [.create "tensor" (.zeros .uint16 [2, 3] .rowMajor),
      .derive "transposed" "tensor" .transpose,
      .acquire "view" "transposed" (.viewUnder .stridedReadOnly),
      .call "tensor" (.set [0, 2] 7)]
    (s.step (.use "view" .walk)).reply = .answer (.items .uint16 [0, 0, 0, 0, 7, 0]) ∧
      (s.step (.call "transposed" .contents)).reply =
        .answer (.items .uint16 [0, 0, 0, 0, 7, 0]) := by
  have of : (Session.after {} [.create "tensor" (.zeros .uint16 [2, 3] .rowMajor),
      .derive "transposed" "tensor" .transpose]).value? "transposed" =
    some (.source (.tensor { memory := 0, shape := [3, 2], strides := [2, 6] })) := rfl
  have acquired : ((Session.after {} [.create "tensor" (.zeros .uint16 [2, 3] .rowMajor),
      .derive "transposed" "tensor" .transpose]).step
        (.acquire "view" "transposed" (.viewUnder .stridedReadOnly))).reply =
    .answer (.view ⟨.heap 0 0, 12, 2, 2, false, none, some [3, 2], some [2, 6], none⟩) := rfl
  obtain ⟨values, -, -, -, listed, hw, hc⟩ :=
    held_view_reads_tensor _ [.call "tensor" (.set [0, 2] 7)] of acquired rfl
  have list : values = [0, 0, 0, 0, 7, 0] := by
    refine (Except.ok.inj (listed.symm.trans ?_) : values = _)
    decide +kernel
  subst list
  exact ⟨hw, hc "transposed" rfl⟩

end Session
end MemoryLease
