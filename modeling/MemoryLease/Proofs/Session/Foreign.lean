import MemoryLease.Proofs.Session.Steps

/-!
# The leases of foreign sources

A foreign source keeps no account of what is outstanding: it numbers what it grants, and notes the
numbers that come back.  The session keeps the account for it.  The numbers that have come back and
those of the leases that are not returned are together all that the source has ever given out, each
of them once (`Numbered`).  Every step keeps it so, whatever the source describes or refuses at the
time (`Move.numbered`), and what is lost of a foreign source is only what it has lent without
negotiation (`length_tickets_abandoned`).  So the books of a foreign source balance at every point
of every session (`foreign_exports_balance`).
-/

namespace MemoryLease
namespace Session

variable {s s' : Session} {t : Step} {es : List Event} {name origin : String} {source : Source}
  {c : Contract} {id : Nat}

/-! ### What a step does to a foreign source -/

/-- What happens to a foreign source in a step, and to the leases of it. -/
structure Trades (s : Session) (t : Step) (s' : Session) (id : Nat) (asked : List Contract)
    (given back : List Nat) : Prop where
  deals : s.store.Deals s'.store id asked given back
  asks : ∀ c ∈ asked, ∃ source, Asks s t source c
  leases : ∀ ticket, s'.unreturned.count (.foreign id ticket) + back.count ticket =
    s.unreturned.count (.foreign id ticket) + given.count ticket

/-- A step that nobody asks a foreign source in, and that leaves the leases as they were. -/
theorem Trades.idle (deals : s.store.Deals s'.store id [] [] [])
    (leases : s'.unreturned = s.unreturned) : Trades s t s' id [] [] [] :=
  ⟨deals, fun _ hc => absurd hc List.not_mem_nil, fun _ => by rw [leases]⟩

/-- A step that asks once asks under the contract that it names. -/
theorem Asks.of_mem {asked : List Contract} (asks : Asks s t source c)
    (only : asked = [] ∨ asked = [c]) : ∀ c' ∈ asked, ∃ source, Asks s t source c' := by
  intro c' hc
  rcases only with rfl | rfl
  · exact absurd hc List.not_mem_nil
  · rw [List.mem_singleton.1 hc]
    exact ⟨source, asks⟩

/-- Nobody has dealt with what is just made. -/
theorem Made.deals {s s' : Store} {v : Value} (made : Made s s' v) (id : Nat) :
    s.Deals s' id [] [] [] := by
  cases made with
  | @foreign f fresh =>
    rcases Nat.lt_trichotomy id s.foreigns.length with hid | rfl | hid
    · have he := Store.foreign_addForeign_of_lt hid f
      exact Store.deals_of_eq (congrArg _ he) (congrArg _ he) (congrArg _ he)
    · have he := Store.foreign_addForeign s f
      have hd := Store.foreign_of_length_le (Nat.le_refl s.foreigns.length)
      exact Store.deals_of_eq (by rw [he, hd]; exact fresh.seen)
        (by rw [he, hd]; exact fresh.granted) (by rw [he, hd]; exact fresh.returned)
    · have hd := Store.foreign_of_length_le (Nat.le_of_lt hid)
      have he : (s.addForeign f).foreign id = default :=
        Store.foreign_of_length_le (by simpa [Store.addForeign, Nat.succ_le_iff] using hid)
      exact Store.deals_of_eq (by rw [he, hd]) (by rw [he, hd]) (by rw [he, hd])
  | _ => exact Store.deals_of_eq rfl rfl rfl

/-- What a pointer or a view gives back to a foreign source, if it holds a lease of it. -/
theorem repay?_deals {s : Store} {l : Option Lease}
    (there : ∀ ticket, l = some (.foreign id ticket) → id < s.foreigns.length) :
    s.Deals (s.repay? l) id [] [] (l.bind (Lease.ticket? id)).toList := by
  cases l with
  | none => exact Store.deals_refl s id
  | some l => exact Store.repay_deals fun ticket hl => there ticket (congrArg some hl)

/-- The number of what is held is counted as its lease is. -/
theorem count_bind_ticket? (id ticket : Nat) (l : Option Lease) :
    (l.bind (Lease.ticket? id)).toList.count ticket = l.toList.count (.foreign id ticket) := by
  cases l with
  | none => rfl
  | some l => exact Lease.count_ticket? id ticket l

/-- **What a step does to a foreign source.**  It gives out at most the next number.  The leases of
the source that are not returned gain what it gives out, and lose what comes back to it. -/
theorem Move.trades (m : Move s t es s') (hs : s.Sound)
    (there : ∀ ticket, Lease.foreign id ticket ∈ s.unreturned → id < s.store.foreigns.length) :
    ∃ asked given back, Trades s t s' id asked given back := by
  have there? : ∀ {name h}, s.hold? name = some h → ∀ ticket,
      h.lease? = some (.foreign id ticket) → id < s.store.foreigns.length :=
    fun hh ticket hl => there ticket (lease_mem_unreturned hh hl)
  cases m with
  | create _ made =>
    exact ⟨_, _, _, .idle (made.deals id) (unreturned_of_abandoned (s := s) made.abandoned)⟩
  | @redescribe name other description refusal of =>
    refine ⟨_, _, _, .idle ?_ rfl⟩
    by_cases e : other = id
    · subst e
      have hf := Store.foreign_setForeign_self (hs.hasSource of)
      exact Store.deals_of_eq (by rw [hf]) (by rw [hf]) (by rw [hf])
    · have hf := Store.foreign_setForeign_of_ne (s := s.store) e
      exact Store.deals_of_eq (by rw [hf]) (by rw [hf]) (by rw [hf])
  | ask asks =>
    obtain ⟨asked, deals, only⟩ := Store.ask_deals (asks.hasSource hs) _ id
    exact ⟨_, _, _, deals, asks.of_mem only, fun _ => rfl⟩
  | @lose _ source c l asks grants =>
    obtain ⟨asked, deals, only⟩ := grants.deals (asks.hasSource hs) id
    refine ⟨_, _, _, deals.abandon l, asks.of_mem only, fun ticket => ?_⟩
    rw [Lease.count_ticket?]
    simp only [unreturned, Store.abandon, Store.abandoned_enter, List.count_append, List.count_nil]
    omega
  | @take name origin request source e untaken of acquires =>
    have asks : Asks s (.acquire name origin request) source request.contract :=
      .acquire of acquires.valid
    obtain ⟨asked, deals, only⟩ := acquires.grants.deals (hs.hasSource of) id
    refine ⟨_, _, _, deals, asks.of_mem only, fun ticket => ?_⟩
    have hu := unreturned_of_abandoned (s := s)
      (Store.abandoned_enter s.store request.contract e.lease)
    rw [unreturned_addHold, hu, Request.lease?_holding, Lease.count_ticket?]
    rfl
  | @reject name origin request source l r refusal of valid grants =>
    have asks : Asks s (.acquire name origin request) source request.contract := .acquire of valid
    obtain ⟨asked, deals, only⟩ := grants.repay_deals (hs.hasSource of) id
    refine ⟨_, _, _, deals, asks.of_mem only, fun ticket => ?_⟩
    have hu := unreturned_of_abandoned (s := s) ((Store.abandoned_repay _ l).trans
      (Store.abandoned_enter s.store request.contract l))
    rw [hu]
  | @release name p of =>
    refine ⟨[], [], _, (repay?_deals (there? of)).free _, fun _ hc => absurd hc List.not_mem_nil,
      fun ticket => ?_⟩
    rw [count_bind_ticket?]
    exact unreturned_release hs of _
  | @consume _ name h of =>
    refine ⟨[], [], _, (repay?_deals (there? of)).free _, fun _ hc => absurd hc List.not_mem_nil,
      fun ticket => ?_⟩
    rw [count_bind_ticket?]
    exact unreturned_consume hs of _
  | forget of unheld =>
    exact ⟨_, _, _, .idle (Store.deals_of_eq rfl rfl rfl) (unreturned_forget_of_unheld unheld)⟩
  | _ => exact ⟨_, _, _, .idle (Store.deals_of_eq rfl rfl rfl) rfl⟩

/-! ### The numbers of a foreign source -/

/-- What has come back to a foreign source, and what is not returned to it, is all that it has given
out, and each number is there once. -/
def Numbered (s : Session) (id : Nat) : Prop :=
  ((s.store.foreign id).returned ++ Lease.tickets id s.unreturned).Perm
    (List.range (s.store.foreign id).granted)

/-- Nothing has been numbered in a session without anything. -/
theorem numbered_empty (id : Nat) : Numbered {} id := List.Perm.nil

/-- A source that has a lease to come back is there. -/
theorem Numbered.foreign_lt (hn : s.Numbered id) {ticket : Nat}
    (hl : Lease.foreign id ticket ∈ s.unreturned) : id < s.store.foreigns.length := by
  by_contra hid
  have hd := Store.foreign_of_length_le (Nat.le_of_not_lt hid)
  have hm : ticket ∈ Lease.tickets id s.unreturned :=
    List.mem_filterMap.2 ⟨_, hl, Lease.ticket?_foreign_self id ticket⟩
  have hr := hn.subset (List.mem_append_right _ hm)
  rw [hd] at hr
  exact absurd hr List.not_mem_nil

/-- **Every step keeps the numbers of a foreign source.** -/
theorem Move.numbered (m : Move s t es s') (hs : s.Sound) (hn : s.Numbered id) :
    s'.Numbered id := by
  obtain ⟨asked, given, back, trades⟩ := m.trades hs fun _ hl => hn.foreign_lt hl
  rw [Numbered, List.perm_iff_count]
  intro ticket
  have before := List.perm_iff_count.1 hn ticket
  have leases := trades.leases ticket
  rw [trades.deals.range_granted, trades.deals.returned]
  simp only [List.count_append, Lease.count_tickets] at before ⊢
  omega

/-- The numbers of a foreign source are in order in every session. -/
theorem after_numbered (hs : s.Sound) (hn : s.Numbered id) (steps : List Step) :
    (s.after steps).Numbered id :=
  after_keeps (P := fun s => s.Numbered id) (fun m hs hn => m.numbered hs hn) hs hn steps

/-! ### What is lent without negotiation -/

/-- Whether a step is answered with something. -/
def Reply.isAnswer : Reply → Bool
  | .answer _ => true
  | _ => false

/-- A call is answered exactly if it goes well. -/
theorem Reply.isAnswer_of {α : Type} (result : Except Failure α) (answer : α → Answer) :
    (Reply.of (result.map answer)).isAnswer = result.isOk := by
  cases result <;> rfl

/-- Whether a foreign source lends something in a step without negotiation. -/
def lendsDirectly (s : Session) (id : Nat) : Step → Bool
  | .call name (.lend c) =>
    s.value? name = some (.source (.foreign id)) && (s.step (.call name (.lend c))).reply.isAnswer
  | _ => false

/-- How often a foreign source lends something without negotiation in a list of steps. -/
def lentDirectly (s : Session) (id : Nat) : List Step → Nat
  | [] => 0
  | t :: ts => (s.lendsDirectly id t).toNat + (s.step t).session.lentDirectly id ts

/-- The number of the pointers and views that hold a lease of a foreign source. -/
def heldFrom (s : Session) (id : Nat) : Nat :=
  s.holds.countP fun entry => (entry.2.lease?.bind (Lease.ticket? id)).isSome

/-- A lease of a foreign source that is not returned is held or lost. -/
theorem length_tickets_unreturned (s : Session) (id : Nat) :
    (Lease.tickets id s.unreturned).length =
      s.heldFrom id + (Lease.tickets id s.store.abandoned).length := by
  rw [unreturned, Lease.tickets_append, List.length_append, Lease.tickets, List.filterMap_filterMap,
    List.length_filterMap_eq_countP]
  rfl

/-- Negotiation loses no lease of a foreign source. -/
theorem tickets_acquire {s : Store} {v : Value} {made : Effect ExportedView}
    (outcome : s.Acquiring c v made) (id : Nat) :
    Lease.tickets id made.store.abandoned = Lease.tickets id s.abandoned := by
  cases outcome with
  | lost =>
    rw [Store.abandon, Store.abandoned_enter, Lease.tickets_append]
    exact List.append_nil _
  | rejected => rw [Store.abandoned_repay, Store.abandoned_enter]
  | acquired => rw [Store.abandoned_enter]
  | _ => rfl

/-- A foreign source that lends something without negotiation has one more lease that is lost. -/
theorem length_tickets_lendToNobody (s : Store) (c : Contract) (source : Source) (id : Nat) :
    let lent := lendToNobody s c source
    (Lease.tickets id lent.store.abandoned).length = (Lease.tickets id s.abandoned).length +
      (decide (source = .foreign id) && lent.result.isOk).toNat := by
  have outcome := Store.lending s c source
  unfold lendToNobody
  generalize s.lend c source = lent at outcome
  have owned : ∀ {other}, source.memory? = some other → decide (source = .foreign id) = false := by
    intro other of
    rw [decide_eq_false_iff_not]
    rintro rfl
    cases of
  cases outcome with
  | readOnly of => simp [owned of]
  | refused of => simp [owned of]
  | declined => simp [Except.isOk, Except.toBool, Store.ask, Store.setForeign]
  | lost of => simp [owned of, Store.abandon, Lease.tickets]
  | granted grants =>
    cases grants with
    | owned of => simp [owned of, Store.abandon, Lease.tickets]
    | @foreign other willing =>
      simp only [Store.abandon, Store.abandoned_enter, Lease.tickets_append, List.length_append]
      by_cases e : other = id
      · subst e
        simp [Lease.tickets, Except.isOk, Except.toBool]
      · simp [Lease.tickets, Lease.ticket?_foreign_of_ne e, e]

/-- A step in which nobody asks a source loses nothing. -/
theorem length_tickets_of_unasked (hs : s.Sound) (unasked : ∀ source c, ¬ Asks s t source c)
    (none : s.lendsDirectly id t = false) :
    (Lease.tickets id (s.step t).session.store.abandoned).length =
      (Lease.tickets id s.store.abandoned).length + (s.lendsDirectly id t).toNat := by
  rw [(step_move hs t).abandoned unasked, none]
  rfl

/-- **What a step loses of a foreign source** is what the source lends in it without negotiation. -/
theorem length_tickets_step (hs : s.Sound) (t : Step) (id : Nat) :
    (Lease.tickets id (s.step t).session.store.abandoned).length =
      (Lease.tickets id s.store.abandoned).length + (s.lendsDirectly id t).toNat := by
  cases t with
  | acquire name origin request =>
    rcases acquire_step s name origin request with invalid | ⟨v, -, of, asked⟩
    · rw [invalid]
      rfl
    · rw [asked, acquire_store name of, tickets_acquire (hs.acquiring of request.contract)]
      rfl
  | call name called =>
    cases called with
    | lend c =>
      rcases lend_step s name c with invalid | ⟨source, of, put⟩
      · simp only [lendsDirectly, invalid, Reply.isAnswer, replying, Bool.and_false]
        rfl
      · have lost := length_tickets_lendToNobody s.store c source id
        simpa only [lendsDirectly, put, of, carriedOut, Reply.isAnswer_of, Option.some.injEq,
          Value.source.injEq] using lost
    | _ => exact length_tickets_of_unasked hs (fun _ _ asks => by cases asks) rfl
  | _ => exact length_tickets_of_unasked hs (fun _ _ asks => by cases asks) rfl

/-- **What a session loses of a foreign source** is what the source has lent in it without
negotiation. -/
theorem length_tickets_abandoned (hs : s.Sound) (steps : List Step) (id : Nat) :
    (Lease.tickets id (s.after steps).store.abandoned).length =
      (Lease.tickets id s.store.abandoned).length + s.lentDirectly id steps := by
  induction steps generalizing s with
  | nil => rfl
  | cons t steps ih =>
    have first := length_tickets_step hs t id
    have rest := ih (step_sound hs t)
    simp only [after, List.foldl_cons, lentDirectly] at rest ⊢
    omega

/-! ### The contracts that a foreign source sees -/

/-- A foreign source is asked under contracts that do not contradict themselves, unless somebody
asks it without negotiation. -/
theorem seen_after (hs : s.Sound) (hn : s.Numbered id) (steps : List Step) {c : Contract}
    (hc : c ∈ ((s.after steps).store.foreign id).seen) :
    c ∈ (s.store.foreign id).seen ∨ c.flaw? = none ∨
      ∃ name, Step.call name (.lend c) ∈ steps := by
  induction steps generalizing s with
  | nil => exact .inl hc
  | cons t steps ih =>
    have m := step_move hs t
    obtain ⟨asked, given, back, trades⟩ := m.trades hs fun _ hl => hn.foreign_lt hl
    rcases ih (step_sound hs t) (m.numbered hs hn) hc with hc | valid | ⟨name, hm⟩
    · rw [trades.deals.seen] at hc
      rcases List.mem_append.1 hc with hc | hc
      · exact .inl hc
      · obtain ⟨source, asks⟩ := trades.asks c hc
        cases asks with
        | lend of => exact .inr (.inr ⟨_, List.mem_cons_self⟩)
        | acquire of valid => exact .inr (.inl valid)
    · exact .inr (.inl valid)
    · exact .inr (.inr ⟨name, List.mem_cons_of_mem _ hm⟩)

/-- **The books of a foreign source balance** at every point of every session, whatever it described
and refused in between.  What it has granted is what has come back, what pointers and views hold,
and what it has lent without negotiation.  Each lease that has come back was granted, is held no
more, and came back once.  It is asked by negotiation only under contracts that do not contradict
themselves, at most once in a request, and a request that fails gives back exactly what it has been
granted, which is nothing or the next number. -/
theorem foreign_exports_balance (steps : List Step) (id : Nat) :
    let s := after {} steps
    let f := s.store.foreign id
    f.granted = f.returned.length + s.heldFrom id + lentDirectly {} id steps ∧
    (f.returned.Nodup ∧
      ∀ ticket ∈ f.returned, ticket < f.granted ∧ Lease.foreign id ticket ∉ s.unreturned) ∧
    (∀ c ∈ f.seen, c.flaw? = none ∨ ∃ name, Step.call name (.lend c) ∈ steps) ∧
    ∀ name origin request,
      let turn := s.step (.acquire name origin request)
      let f' := turn.session.store.foreign id
      (f'.seen = f.seen ∨ f'.seen = f.seen ++ [request.contract] ∧ request.contract.flaw? = none) ∧
      ∀ failure, turn.reply = .failed failure → turn.session.holds = s.holds ∧
        ∃ given, (given = [] ∨ given = [f.granted]) ∧
          f'.granted = f.granted + given.length ∧ f'.returned = f.returned ++ given := by
  intro s f
  have hs : s.Sound := after_sound sound_empty steps
  have hn : s.Numbered id := after_numbered sound_empty (numbered_empty id) steps
  have all : (f.returned ++ Lease.tickets id s.unreturned).Nodup :=
    hn.nodup_iff.2 List.nodup_range
  obtain ⟨once, -, apart⟩ := List.nodup_append.1 all
  refine ⟨?_, ⟨once, fun ticket ht => ⟨?_, fun hl => ?_⟩⟩, fun c hc => ?_,
    fun name origin request => ?_⟩
  · have total : f.returned.length + (Lease.tickets id s.unreturned).length = f.granted := by
      rw [← List.length_append, hn.length_eq, List.length_range]
    have kept := length_tickets_unreturned s id
    have lost : (Lease.tickets id s.store.abandoned).length = 0 + lentDirectly {} id steps :=
      length_tickets_abandoned sound_empty steps id
    omega
  · exact List.mem_range.1 (hn.subset (List.mem_append_left _ ht))
  · have hm : ticket ∈ Lease.tickets id s.unreturned :=
      List.mem_filterMap.2 ⟨_, hl, Lease.ticket?_foreign_self id ticket⟩
    exact apart ticket ht ticket hm rfl
  · rcases seen_after sound_empty (numbered_empty id) steps hc with hc | hc
    · exact absurd hc List.not_mem_nil
    · exact hc
  · intro turn f'
    rcases acquire_step s name origin request with invalid | ⟨v, -, of, put⟩
    · have hf : f' = f := congrArg (fun turn : Turn => turn.session.store.foreign id) invalid
      refine ⟨.inl (congrArg _ hf), fun failure hr => ?_⟩
      cases (congrArg Turn.reply invalid).symm.trans hr
    · obtain ⟨asked, given, back, deals, only, whole⟩ :=
        (hs.acquiring of request.contract).deals (fun source hv => hs.hasSource (hv ▸ of)) id
      rw [← acquire_store name of, ← put] at deals
      have put : turn = s.acquire name origin request := put
      refine ⟨?_, fun failure hr => ?_⟩
      · rcases only with rfl | ⟨rfl, valid⟩
        · exact .inl (deals.seen.trans (List.append_nil _))
        · exact .inr ⟨deals.seen, valid⟩
      · rw [put] at hr ⊢
        obtain ⟨same, why, hw⟩ := acquire_failed of hr
        obtain rfl := whole why hw
        exact ⟨same, _, deals.next, deals.granted, deals.returned⟩

/-- A foreign source is held, is asked without negotiation, gets a lease back from a pointer, then
describes memory with gaps and gets back what it has just granted, and at last refuses. -/
theorem foreign_exports_balance_changing_source :
    let gaps : Region.Description := ⟨.fixed 64, .items 1 [2] [2], false, none, none⟩
    let s := Session.after {} [
      .create "source" (.foreign ⟨.fixed 64, .bytes 4, false, none, none⟩ none),
      .acquire "view" "source" (.viewUnder .simple), .call "source" (.lend .simple),
      .acquire "pointer" "source" .simplePointer, .use "pointer" .release,
      .call "source" (.redescribe gaps none), .acquire "gaps" "source" .simplePointer,
      .call "source" (.redescribe gaps (some .readOnly)),
      .acquire "refused" "source" .simplePointer]
    let f := s.store.foreign 0
    f.granted = 4 ∧ f.returned = [2, 3] ∧ f.seen.length = 5 ∧
      f.granted = f.returned.length + 1 + 1 ∧ f.returned.Nodup := by
  have h := foreign_exports_balance [
    .create "source" (.foreign ⟨.fixed 64, .bytes 4, false, none, none⟩ none),
    .acquire "view" "source" (.viewUnder .simple), .call "source" (.lend .simple),
    .acquire "pointer" "source" .simplePointer, .use "pointer" .release,
    .call "source" (.redescribe ⟨.fixed 64, .items 1 [2] [2], false, none, none⟩ none),
    .acquire "gaps" "source" .simplePointer,
    .call "source" (.redescribe ⟨.fixed 64, .items 1 [2] [2], false, none, none⟩
      (some .readOnly)),
    .acquire "refused" "source" .simplePointer] 0
  exact ⟨rfl, rfl, rfl, h.1, h.2.1.1⟩

end Session
end MemoryLease
