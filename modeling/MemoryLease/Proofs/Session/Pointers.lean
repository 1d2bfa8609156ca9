import MemoryLease.Proofs.Session.Holding

/-!
# The life of a pointer

A pointer is made with an address and a view, and no step but two can take them from it: the one
that releases it and the one that drops its name.  So it tells the same address and the same view
until it is released, whatever becomes of its source, and nothing but its release from then on
(`pointer_tells_address_until_release`).
-/

namespace MemoryLease
namespace Session

variable {s s' : Session} {t : Step} {es : List Event} {name origin : String} {request : Request}
  {h : Hold} {p : Pointer}

/-- What a name holds stays as it is unless it is released or dropped. -/
theorem Move.hold_kept (m : Move s t es s') (hh : s.hold? name = some h)
    (undropped : t ≠ .drop name) (unreleased : t ≠ .use name .release) :
    s'.hold? name = some h := by
  cases m with
  | @take other _ _ _ _ untaken =>
    have hn : other ≠ name := by
      rintro rfl
      rw [(isTaken_eq_false_iff.1 untaken).2] at hh
      cases hh
    exact (Names.lookup?_add_of_ne _ hn _).trans hh
  | @release other =>
    have hn : other ≠ name := by
      rintro rfl
      exact unreleased rfl
    exact (Names.lookup?_replace_of_ne _ hn _).trans hh
  | @consume _ other _ _ lets =>
    have hn : other ≠ name := by
      rintro rfl
      rcases lets with rfl | rfl
      · exact undropped rfl
      · exact unreleased rfl
    exact (Names.lookup?_remove_of_ne _ hn).trans hh
  | @forget other =>
    have hn : other ≠ name := by
      rintro rfl
      exact undropped rfl
    exact (Names.lookup?_remove_of_ne _ hn).trans hh
  | _ => exact hh

/-- A name holds what it holds until it is dropped or released. -/
theorem hold_after (hs : s.Sound) (hh : s.hold? name = some h) {steps : List Step}
    (undropped : .drop name ∉ steps) (unreleased : .use name .release ∉ steps) :
    (s.after steps).hold? name = some h := by
  refine after_keeps_of_steps (P := fun s => s.hold? name = some h) (fun t ht s hs hh => ?_) hs hh
  refine (step_move hs t).hold_kept hh ?_ ?_
  · rintro rfl
    exact undropped ht
  · rintro rfl
    exact unreleased ht

/-! ### Released pointers -/

/-- Giving back changes what no name stands for. -/
theorem giveBack_holds (s : Session) (h : Hold) : (s.giveBack h).session.holds = s.holds := by
  unfold giveBack
  split <;> rfl

/-- A pointer that is released stays, and holds nothing. -/
theorem release_pointer (hh : s.hold? name = some (.pointer p)) :
    (s.step (.use name .release)).session.hold? name = some (.pointer ⟨p.origin, none⟩) := by
  have released : s.step (.use name .release) = s.release name (.pointer p) := by
    rw [step_use, use, hh]
  have held : (s.giveBack (.pointer p)).session.hold? name = some (.pointer p) := by
    rw [hold?, giveBack_holds]
    exact hh
  rw [released]
  exact Names.lookup?_replace_self held _

/-- A pointer that has been released stays released. -/
theorem released_after (hs : s.Sound) {address : Address}
    (hh : s.hold? name = some (.pointer ⟨address, none⟩)) {steps : List Step}
    (undropped : .drop name ∉ steps) :
    (s.after steps).hold? name = some (.pointer ⟨address, none⟩) := by
  refine after_keeps_of_steps (P := fun s => s.hold? name = some (.pointer ⟨address, none⟩))
    (fun t ht s hs hh => ?_) hs hh
  by_cases again : t = .use name .release
  · rw [again]
    exact release_pointer hh
  · refine (step_move hs t).hold_kept hh ?_ again
    rintro rfl
    exact undropped ht

/-- To let go of a pointer that has been released changes nothing in the store. -/
theorem letGo_released {address : Address} (hh : s.hold? name = some (.pointer ⟨address, none⟩))
    (ht : t = .use name .release ∨ t = .drop name) :
    (s.step t).session.store = s.store ∧ (s.step t).events = [] ∧
      (s.step t).reply = .answer .done := by
  rcases ht with rfl | rfl
  · rw [step_use, use, hh]
    exact ⟨rfl, rfl, rfl⟩
  · rw [step_drop, drop, hh]
    exact ⟨rfl, rfl, rfl⟩

/-! ### What a pointer tells -/

/-- A pointer that has been released tells that it has, and refuses everything else. -/
theorem reply_released {address : Address} (hh : s.hold? name = some (.pointer ⟨address, none⟩)) :
    (∀ usage ∈ [Usage.address, .number, .view, .readAddress, .writeAddress],
      (s.step (.use name usage)).reply = .failed (.refused .useAfterRelease)) ∧
    (s.step (.use name .isReleased)).reply = .answer (.truth true) := by
  constructor
  · intro usage hu
    rw [step_use, use, hh]
    simp only [List.mem_cons, List.not_mem_nil, or_false] at hu
    rcases hu with rfl | rfl | rfl | rfl | rfl <;> rfl
  · rw [step_use, use, hh]
    rfl

/-- A pointer that has not been released tells its address and its view. -/
theorem reply_held {e : ExportedView} (hh : s.hold? name = some (.pointer (.ofView e))) :
    (∀ usage ∈ [Usage.address, .number, .readAddress],
      (s.step (.use name usage)).reply = .answer (.address e.view.address)) ∧
    (s.step (.use name .view)).reply = .answer (.view e.view) ∧
    (s.step (.use name .isReleased)).reply = .answer (.truth false) := by
  refine ⟨fun usage hu => ?_, ?_, ?_⟩
  · rw [step_use, use, hh]
    simp only [List.mem_cons, List.not_mem_nil, or_false] at hu
    rcases hu with rfl | rfl | rfl <;> rfl
  · rw [step_use, use, hh]
    rfl
  · rw [step_use, use, hh]
    rfl

/-- **A pointer tells one address until it is released, and none from then on.**  Whatever is done
in between, through the pointer, to its source or to anything else: until the first release the
pointer tells the address and the view that it has been made with.  From the first release on it
tells neither, and letting go of it changes no source any more. -/
theorem pointer_tells_address_until_release (before later : List Step) {v : MemoryView}
    (isPointer : ∀ c, request ≠ .viewUnder c)
    (acquired : ((after {} before).step (.acquire name origin request)).reply =
      .answer (.view v))
    (undropped : .drop name ∉ later) :
    let s := after {} (before ++ .acquire name origin request :: later)
    (.use name .release ∉ later →
      (∀ usage ∈ [Usage.address, .number, .readAddress],
        (s.step (.use name usage)).reply = .answer (.address v.address)) ∧
      (s.step (.use name .view)).reply = .answer (.view v) ∧
      (s.step (.use name .isReleased)).reply = .answer (.truth false)) ∧
    (.use name .release ∈ later →
      (∀ usage ∈ [Usage.address, .number, .view, .readAddress, .writeAddress],
        (s.step (.use name usage)).reply = .failed (.refused .useAfterRelease)) ∧
      (s.step (.use name .isReleased)).reply = .answer (.truth true) ∧
      ∀ t, t = .use name .release ∨ t = .drop name →
        (s.step t).session.store = s.store ∧ (s.step t).events = [] ∧
          (s.step t).reply = .answer .done) := by
  obtain ⟨source, e, -, -, rfl, made⟩ := acquired_of_reply acquired
  have hold : request.holding e = .pointer (.ofView e) := by
    cases request with
    | viewUnder c => exact absurd rfl (isPointer c)
    | _ => rfl
  rw [hold] at made
  have hs : ((after {} before).step (.acquire name origin request)).session.Sound :=
    step_sound (after_sound sound_empty before) _
  rw [after_append, after_cons]
  refine ⟨fun unreleased => reply_held (hold_after hs made undropped unreleased),
    fun released => ?_⟩
  obtain ⟨first, rest, rfl, unreleased⟩ := List.eq_append_cons_of_mem released
  rw [List.mem_append, not_or, List.mem_cons, not_or] at undropped
  rw [after_append, after_cons]
  have sound := after_sound hs first
  have gone := released_after (step_sound sound _)
    (release_pointer (hold_after hs made undropped.1 unreleased)) undropped.2.2
  exact ⟨(reply_released gone).1, (reply_released gone).2, fun t ht => letGo_released gone ht⟩

/-- A pointer to foreign memory, whose source states another place and goes: the pointer tells the
address that it has been made with, and once it is released it does not. -/
theorem pointer_tells_address_until_release_foreign :
    let steps := [Step.create "source" (.foreign ⟨.fixed 4096, .bytes 8, false, none, none⟩ none),
      .acquire "pointer" "source" .simplePointer,
      .call "source" (.redescribe ⟨.fixed 64, .bytes 1, false, none, none⟩ none), .drop "source"]
    ((Session.after {} steps).step (.use "pointer" .address)).reply =
        .answer (.address (.fixed 4096)) ∧
      ((Session.after {} (steps ++ [.use "pointer" .release])).step
        (.use "pointer" .address)).reply = .failed (.refused .useAfterRelease) := by
  have acquired : ((Session.after {} [.create "source"
      (.foreign ⟨.fixed 4096, .bytes 8, false, none, none⟩ none)]).step
        (.acquire "pointer" "source" .simplePointer)).reply =
    .answer (.view ⟨.fixed 4096, 8, 1, 1, false, none, none, none, none⟩) := rfl
  have held := pointer_tells_address_until_release _
    [.call "source" (.redescribe ⟨.fixed 64, .bytes 1, false, none, none⟩ none), .drop "source"]
    (by simp) acquired (by decide)
  have gone := pointer_tells_address_until_release _
    [.call "source" (.redescribe ⟨.fixed 64, .bytes 1, false, none, none⟩ none), .drop "source",
      .use "pointer" .release] (by simp) acquired (by decide)
  exact ⟨(held.1 (by decide)).1 .address (by decide), (gone.2 (by decide)).1 .address (by decide)⟩

end Session
end MemoryLease
