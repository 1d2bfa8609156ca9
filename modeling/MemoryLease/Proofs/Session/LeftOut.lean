import MemoryLease.Proofs.Session.Steps

/-!
# Runs with steps left out

Some steps fail without a trace: the session is the same before and after them.  Which steps of a
run these are shows in their replies (`Session.Traceless`).  A run without them is a run of the
other steps just as they were: each of them finds the session that it found, and so does, records
and replies the same (`turns_without`).
-/

namespace MemoryLease
namespace Session

variable {s : Session} {t : Step} {out : Step → Reply → Bool}

/-- A step leaves the session as it was if its reply is one of those told. -/
def Traceless (out : Step → Reply → Bool) : Prop :=
  ∀ (s : Session) (t : Step), out t (s.step t).reply = true → (s.step t).session = s

/-- The steps of a run but for those that are left out for their reply. -/
def without (out : Step → Reply → Bool) (s : Session) (steps : List Step) : List Step :=
  ((steps.zip (s.turns steps)).filter fun p => !out p.1 p.2.reply).map Prod.fst

/-- A step that is to be left out is left out. -/
theorem without_of_out (h : out t (s.step t).reply = true) (ts : List Step) :
    s.without out (t :: ts) = (s.step t).session.without out ts := by
  simp [without, turns, h]

/-- A step that is not to be left out stays. -/
theorem without_of_not_out (h : out t (s.step t).reply = false) (ts : List Step) :
    s.without out (t :: ts) = t :: (s.step t).session.without out ts := by
  simp [without, turns, h]

/-- A run with traceless steps left out ends in the same session. -/
theorem after_without (traceless : Traceless out) (s : Session) (steps : List Step) :
    s.after (s.without out steps) = s.after steps := by
  induction steps generalizing s with
  | nil => rfl
  | cons t ts ih =>
    cases h : out t (s.step t).reply with
    | true => rw [without_of_out h, after_cons, traceless s t h, ih]
    | false => rw [without_of_not_out h, after_cons, after_cons, ih]

/-- **The other steps go as they did** if traceless steps are left out of a run. -/
theorem turns_without (traceless : Traceless out) (s : Session) (steps : List Step) :
    (s.without out steps).zip (s.turns (s.without out steps)) =
      (steps.zip (s.turns steps)).filter fun p => !out p.1 p.2.reply := by
  induction steps generalizing s with
  | nil => rfl
  | cons t ts ih =>
    have first : (t :: ts).zip (s.turns (t :: ts)) =
      (t, s.step t) :: ts.zip ((s.step t).session.turns ts) := rfl
    cases h : out t (s.step t).reply with
    | true =>
      rw [without_of_out h, first, List.filter_cons_of_neg (by simp [h]), ← ih, traceless s t h]
    | false =>
      rw [without_of_not_out h, first, List.filter_cons_of_pos (by simp [h]), ← ih]
      rfl

end Session
end MemoryLease
