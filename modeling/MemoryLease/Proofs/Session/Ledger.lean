import MemoryLease.Proofs.Session.Steps

/-!
# The ledger of a session

The record of a session tells every lease of a memory that has been entered and every one that has
been struck out.  At every point of every session the two balance: what has been entered and not
struck out is what the pointers and views hold and what has been lost, and each memory counts it
(`accounts_balance`).  So a view for writing is granted exactly while no view is outstanding, one
for reading exactly while none for writing is, and a refusal tells the account as it stands.

A lease is lost in two ways: a source is called to lend its memory to nobody, or a request faults
after the lease has been entered.  What a memory has lost is what the steps of these two kinds have
entered (`count_abandoned`), so a name that goes loses nothing: it gives back the lease that it
holds (`lets_go`).
-/

namespace MemoryLease
namespace Session

open Event (entered returned)

variable {s : Session} {t : Step} {name origin : String}

/-- What a list of steps records. -/
def log (s : Session) (steps : List Step) : List Event := (s.turns steps).flatMap Turn.events

/-- What a run records starts with what its first step does. -/
theorem log_cons (s : Session) (t : Step) (steps : List Step) :
    s.log (t :: steps) = (s.step t).events ++ (s.step t).session.log steps := rfl

/-- **The record and the leases balance** over any list of steps. -/
theorem count_log {s : Session} (hs : s.Sound) (steps : List Step) (id : Nat) (w : Bool) :
    (s.after steps).unreturned.count (.memory id w) +
        (returned (s.log steps)).count (.memory id w) =
      s.unreturned.count (.memory id w) + (entered (s.log steps)).count (.memory id w) := by
  induction steps generalizing s with
  | nil => rfl
  | cons t steps ih =>
    have hm := (step_move hs t).count_unreturned hs id w
    have hr := ih (step_sound hs t)
    rw [log_cons, Event.entered_append, Event.returned_append, List.count_append,
      List.count_append]
    simp only [after, List.foldl_cons] at hr ⊢
    omega

/-! ### What is lost -/

/-- Whether a step faults. -/
def Reply.isFault : Reply → Bool
  | .failed (.faulted _) => true
  | _ => false

/-- Whether a step loses what it enters into an account: it lends to nobody, or it faults although
it has entered the lease of what it requests. -/
def Step.losesLease (reply : Reply) : Step → Bool
  | .call _ (.lend _) => true
  | .acquire .. => reply.isFault
  | _ => false

/-- How often a lease is lost in a step. -/
def losses (s : Session) (l : Lease) (t : Step) : Nat :=
  if t.losesLease (s.step t).reply then (entered (s.step t).events).count l else 0

/-- How often a lease is lost in a list of steps. -/
def lostIn (s : Session) (l : Lease) : List Step → Nat
  | [] => 0
  | t :: ts => s.losses l t + (s.step t).session.lostIn l ts

/-- The number of the pointers and views that hold a lease. -/
def holders (s : Session) (l : Lease) : Nat :=
  s.holds.countP fun entry => entry.2.lease? = some l

/-- A lease that is not returned is held or lost. -/
theorem count_unreturned_eq (s : Session) (l : Lease) :
    s.unreturned.count l = s.holders l + s.store.abandoned.count l := by
  rw [unreturned, List.count_append, List.count_filterMap]
  simp only [holders, beq_eq_decide]

/-- A refusal is no fault, however the request words it. -/
theorem Request.isFault_wording (request : Request) (refusal : Refusal) :
    (Reply.failed (request.wording (.refused refusal))).isFault = false := by
  cases request with
  | simplePointer => cases refusal <;> rfl
  | _ => rfl

/-- A source that lends to nobody loses what it enters. -/
theorem count_abandoned_lendToNobody (s : Store) (c : Contract) (source : Source) (id : Nat)
    (w : Bool) :
    let lent := lendToNobody s c source
    lent.store.abandoned.count (.memory id w) =
      s.abandoned.count (.memory id w) + (entered lent.events).count (.memory id w) := by
  have outcome := Store.lending s c source
  unfold lendToNobody
  generalize s.lend c source = lent at outcome
  cases outcome with
  | granted => simp [Store.abandon, entered_entry]
  | lost => simp [Store.abandon, entered_entry]
  | _ => rfl

/-- A request loses what it enters if it faults, and nothing otherwise. -/
theorem count_abandoned_acquire (hs : s.Sound) {v : Value} (of : s.value? origin = some v)
    (name : String) (request : Request) (id : Nat) (w : Bool) :
    let turn := s.acquire name origin request
    turn.session.store.abandoned.count (.memory id w) =
      s.store.abandoned.count (.memory id w) +
        if turn.reply.isFault then (entered turn.events).count (.memory id w) else 0 := by
  rw [acquire_eq name of]
  have outcome := hs.acquiring of request.contract
  generalize s.store.acquire v request.contract = made at outcome
  cases outcome with
  | refused => simp [entered]
  | declined => simp [entered, Store.ask, Store.setForeign]
  | lost => simp [Store.abandon, entered_entry, Request.wording_faulted, Reply.isFault]
  | acquired => simp [Reply.isFault, addHold]
  -- a lease that is rejected has been entered as well, but it goes back and the reply is no fault
  | _ => simp [Request.isFault_wording]

/-- A step in which nobody asks a source loses nothing. -/
theorem count_abandoned_of_unasked (hs : s.Sound) (unasked : ∀ source c, ¬ Asks s t source c)
    (id : Nat) (w : Bool) (none : s.losses (.memory id w) t = 0) :
    (s.step t).session.store.abandoned.count (.memory id w) =
      s.store.abandoned.count (.memory id w) + s.losses (.memory id w) t := by
  rw [(step_move hs t).abandoned unasked, none]
  rfl

/-- **What a step loses** is what it enters, if it is of a kind that loses leases. -/
theorem count_abandoned_step (hs : s.Sound) (t : Step) (id : Nat) (w : Bool) :
    (s.step t).session.store.abandoned.count (.memory id w) =
      s.store.abandoned.count (.memory id w) + s.losses (.memory id w) t := by
  cases t with
  | acquire name origin request =>
    rcases acquire_step s name origin request with invalid | ⟨v, -, of, asked⟩
    · simp only [losses, invalid]
      rfl
    · simp only [losses, asked]
      exact count_abandoned_acquire hs of name request id w
  | call name called =>
    cases called with
    | lend c =>
      rcases lend_step s name c with invalid | ⟨source, -, put⟩
      · simp only [losses, invalid]
        rfl
      · simp only [losses, put]
        exact count_abandoned_lendToNobody s.store c source id w
    | _ => exact count_abandoned_of_unasked hs (fun _ _ asks => by cases asks) id w rfl
  | _ => exact count_abandoned_of_unasked hs (fun _ _ asks => by cases asks) id w rfl

/-- **What has been lost** is what the steps that lose leases have entered. -/
theorem count_abandoned (hs : s.Sound) (steps : List Step) (id : Nat) (w : Bool) :
    (s.after steps).store.abandoned.count (.memory id w) =
      s.store.abandoned.count (.memory id w) + s.lostIn (.memory id w) steps := by
  induction steps generalizing s with
  | nil => rfl
  | cons t steps ih =>
    have first := count_abandoned_step hs t id w
    have rest := ih (step_sound hs t)
    rw [after_cons, rest, first, lostIn]
    omega

/-! ### What goes back -/

/-- **Whoever lets go of a name gives back what it holds.**  That lease is struck out, once, nobody
holds it by the name any more, and every other lease stays as it was. -/
theorem lets_go (hs : s.Sound) {h : Hold} {id : Nat} {w : Bool} (hh : s.hold? name = some h)
    (held : h.lease? = some (.memory id w)) (lets : t = .drop name ∨ t = .use name .release) :
    let turn := s.step t
    turn.reply = .answer .done ∧ returned turn.events = [.memory id w] ∧
      (turn.session.hold? name).bind Hold.lease? = none ∧
      ∀ l, turn.session.unreturned.count l + [Lease.memory id w].count l =
        s.unreturned.count l := by
  have forgotten : ∀ (left : Session) id?,
      ((left.forget name).letGo id?).hold? name = none := fun left id? =>
    Names.lookup?_remove_self left.holds name
  rcases lets with rfl | rfl
  · rw [drop_turn hs hh]
    refine ⟨rfl, by rw [held]; rfl, by rw [forgotten]; rfl, fun l => ?_⟩
    have gone := unreturned_consume hs hh l
    rwa [held] at gone ⊢
  · cases h with
    | view v =>
      rw [release_view_turn hs hh]
      refine ⟨rfl, by rw [held]; rfl, by rw [forgotten]; rfl, fun l => ?_⟩
      have gone := unreturned_consume hs hh l
      rwa [held] at gone ⊢
    | pointer p =>
      rw [release_pointer_turn hs hh]
      refine ⟨rfl, by rw [held]; rfl, ?_, fun l => ?_⟩
      · have there := Names.lookup?_replace_self hh (.pointer ⟨p.origin, none⟩)
        exact congrArg (Option.bind · Hold.lease?) there
      · have gone := unreturned_release hs hh l
        rwa [held] at gone ⊢

/-! ### The account of a memory -/

/-- Every handle to a memory tells the same number of outstanding views. -/
theorem mem_outstanding {s : Session} {name : String} {source : Source} {id : Nat}
    (hm : (name, Value.source source) ∈ s.values) (of : source.memory? = some id) :
    (name, .owned (s.store.memory id).outstandingViews) ∈ s.outstanding := by
  refine List.mem_filterMap.2 ⟨_, hm, ?_⟩
  cases source with
  | buffer b =>
    obtain rfl := Option.some.inj of
    rfl
  | tensor t =>
    obtain rfl := Option.some.inj of
    rfl
  | foreign => cases of

/-- **The accounts balance** at every point of every session.  A memory whose lock is not poisoned
counts the leases of it that pointers and views hold and those that are lost, and these are the ones
that the record enters and does not strike out.  A view for writing is outstanding alone.  A further
one for writing is granted while there is no lease, one for reading while there is none for writing,
and a refusal tells both counts and changes nothing.  Every handle to the memory tells their sum.
What is lost is what was lent to nobody or entered by a request that faulted, and nothing else: who
lets go of a name gives back the lease that it holds. -/
theorem accounts_balance (steps : List Step) (id : Nat) :
    let s := Session.after {} steps
    let m := s.store.memory id
    let reading := s.unreturned.count (.memory id false)
    let writing := s.unreturned.count (.memory id true)
    let conflict := Failure.refused (.exportConflict reading writing)
    m.poisoned = false →
    (m.shared = reading ∧ m.exclusive = writing) ∧
    (∀ w, (entered (log {} steps)).count (.memory id w) =
      (returned (log {} steps)).count (.memory id w) + s.unreturned.count (.memory id w)) ∧
    (m.exclusive ≤ 1 ∧ (m.exclusive = 1 → m.shared = 0)) ∧
    m.register true = (if reading + writing = 0 then .ok (m.lent true) else .error conflict) ∧
    m.register false = (if writing = 0 then .ok (m.lent false) else .error conflict) ∧
    (∀ name source, s.value? name = some (.source source) → source.memory? = some id →
      (name, .owned (.ok (reading + writing))) ∈ s.outstanding ∧
      ∀ c, (c.isWritable = true → source.isReadOnly = false) →
        (m.register c.isWritable = .error conflict →
          s.store.lend c source = { store := s.store, result := .error conflict }) ∧
        (m.register c.isWritable = .ok (m.lent c.isWritable) →
          (s.store.lend c source).events = s.store.entry (.memory id c.isWritable) ∧
          (s.store.lend c source).store.memory id = m.lent c.isWritable)) ∧
    (∀ w, s.store.abandoned.count (.memory id w) = lostIn {} (.memory id w) steps ∧
      s.unreturned.count (.memory id w) =
        s.holders (.memory id w) + lostIn {} (.memory id w) steps) ∧
    ∀ name h w, s.hold? name = some h → h.lease? = some (.memory id w) →
      ∀ t, t = .drop name ∨ t = .use name .release →
        let turn := s.step t
        turn.reply = .answer .done ∧ returned turn.events = [.memory id w] ∧
          (turn.session.hold? name).bind Hold.lease? = none ∧
          ∀ l, turn.session.unreturned.count l + [Lease.memory id w].count l =
            s.unreturned.count l := by
  intro s m reading writing conflict hp
  have hs : s.Sound := after_sound sound_empty steps
  have hf : m.shared = reading := hs.views id false
  have ht : m.exclusive = writing := hs.views id true
  refine ⟨⟨hf, ht⟩, fun w => ?_, hs.alone id, ?_, ?_, fun name source of hid => ?_, fun w => ?_,
    fun name h w hh held t lets => lets_go hs hh held lets⟩
  · have hc : s.unreturned.count (.memory id w) + (returned (log {} steps)).count (.memory id w) =
        0 + (entered (log {} steps)).count (.memory id w) := count_log sound_empty steps id w
    omega
  · rw [Memory.register_for_writing hp, hf, ht]
  · rw [Memory.register_for_reading hp, hf, ht]
  · refine ⟨?_, fun c access => ⟨fun hr => ?_, fun hr => ?_⟩⟩
    · have hm := mem_outstanding (Names.mem_of_lookup? of) hid
      have ho : m.outstandingViews = .ok (reading + writing) := by
        rw [Memory.outstandingViews, Memory.lock_eq_ok_iff.2 hp, ← hf, ← ht]
        rfl
      rwa [ho] at hm
    · exact Store.lend_of_register_error hid access hr
    · obtain ⟨he, hm⟩ := Store.lend_of_register_ok hid access hr
      refine ⟨he, ?_⟩
      have hl : id < s.store.memories.length :=
        Store.Grants.hasLease (.owned hid access hp (Memory.register_eq_ok_iff.1 hr).2.1)
          (hs.hasSource of)
      rw [Store.memory, hm]
      exact Store.memory_setMemory_self hl _
  · have lost : s.store.abandoned.count (.memory id w) = 0 + lostIn {} (.memory id w) steps :=
      count_abandoned sound_empty steps id w
    rw [Nat.zero_add] at lost
    exact ⟨lost, lost ▸ count_unreturned_eq s (.memory id w)⟩

/-- A view is held, a pointer has been released, and a lease has been lost: two views for reading
are outstanding, and one for writing is refused.  The view is dropped and gives back what it
holds. -/
theorem accounts_balance_lost_lease :
    let steps := [Step.create "buffer" (.zeroed 4),
      .acquire "view" "buffer" (.viewUnder .simple), .acquire "pointer" "buffer" .simplePointer,
      .use "pointer" .release, .call "buffer" (.lend .simple)]
    let s := Session.after {} steps
    s.store.abandoned = [.memory 0 false] ∧ (s.store.memory 0).shared = 2 ∧
      (s.store.memory 0).register true = .error (.refused (.exportConflict 2 0)) ∧
      lostIn {} (.memory 0 false) steps = 1 ∧ s.holders (.memory 0 false) = 1 ∧
      returned (s.step (.drop "view")).events = [.memory 0 false] := by
  have h := accounts_balance [.create "buffer" (.zeroed 4),
    .acquire "view" "buffer" (.viewUnder .simple), .acquire "pointer" "buffer" .simplePointer,
    .use "pointer" .release, .call "buffer" (.lend .simple)] 0 rfl
  obtain ⟨⟨counted, -⟩, -, -, writing, -, -, lost, drops⟩ := h
  exact ⟨rfl, counted, writing, (lost false).1.symm, rfl,
    (drops "view" _ false rfl rfl _ (.inl rfl)).2.1⟩

end Session
end MemoryLease
