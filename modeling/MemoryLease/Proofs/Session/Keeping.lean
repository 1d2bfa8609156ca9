import MemoryLease.Proofs.Session.Steps

/-!
# Who keeps a memory

Every handle to a memory owns a share of it, and so does every lease of it that a pointer or a view
holds (`SharedStorage`, `StorageLease`).  The memory is freed with the last of them.  A step looks
only at the memory that it takes a share of, so that this holds of all memories at all times has to
be proved: what a step adds to the shares or takes from them is counted (`keepers_addValue` and the
like), and the memories without a share are those that have been freed (`Session.Kept`).

So a view outlives the handles of its memory.  Whatever has been dropped in the meantime, the memory
of what is held has not been freed, and foreign code reaches it (`held_memory_lives`).
-/

namespace MemoryLease
namespace Session

variable {s s' : Session} {t : Step} {es : List Event} {name : String} {h : Hold} {v : Value}
  {id : Nat}

/-! ### One thing for each name -/

/-- Every name stands for one thing at most. -/
structure Named (s : Session) : Prop where
  values : s.values.names.Nodup
  /-- What is held does not bear the name of a value. -/
  apart : ∀ name h, s.hold? name = some h → s.value? name = none

/-- In a session without anything, no name stands for two things. -/
theorem named_empty : Named {} := ⟨List.nodup_nil, fun _ _ held => by cases held⟩

/-- A new name for a value is no name of something else. -/
theorem Named.addValue (hn : s.Named) (untaken : s.isTaken name = false) (store : Store)
    (v : Value) : ({ s with store }.addValue name v).Named := by
  obtain ⟨free, unheld⟩ := isTaken_eq_false_iff.1 untaken
  refine ⟨Names.nodup_names_add hn.values free v, fun other h held => ?_⟩
  have ne : name ≠ other := by
    rintro rfl
    cases unheld.symm.trans held
  exact (Names.lookup?_add_of_ne s.values ne v).trans (hn.apart other h held)

/-- A new name for what is held is no name of something else. -/
theorem Named.addHold (hn : s.Named) (untaken : s.isTaken name = false) (store : Store)
    (h : Hold) : ({ s with store }.addHold name h).Named := by
  obtain ⟨free, unheld⟩ := isTaken_eq_false_iff.1 untaken
  refine ⟨hn.values, fun other h' held => ?_⟩
  rcases Names.lookup?_of_add unheld held with before | ⟨rfl, -⟩
  · exact hn.apart other h' before
  · exact free

/-- A name that goes leaves the others to one thing each. -/
theorem Named.forget (hn : s.Named) (store : Store) (name : String) :
    ({ s with store }.forget name).Named :=
  ⟨Names.nodup_names_remove hn.values name, fun other h held =>
    Names.lookup?_remove_of_none (hn.apart other h (Names.lookup?_of_remove held))⟩

/-- **Every move leaves each name to one thing.** -/
theorem Move.named (m : Move s t es s') (hn : s.Named) : s'.Named := by
  cases m with
  | create untaken => exact hn.addValue untaken _ _
  | derive _ untaken => exact hn.addValue untaken s.store _
  | take untaken => exact hn.addHold untaken _ _
  | @release n p of =>
    refine ⟨hn.values, fun other h' held => ?_⟩
    by_cases e : n = other
    · subst e
      exact hn.apart n _ of
    · exact hn.apart other h' ((Names.lookup?_replace_of_ne _ e _).symm.trans held)
  | consume => exact ⟨(hn.forget _ _).values, (hn.forget _ _).apart⟩
  | forget => exact ⟨(hn.forget s.store _).values, (hn.forget s.store _).apart⟩
  | _ => exact ⟨hn.values, hn.apart⟩

/-! ### How many keep a memory -/

/-- A new handle keeps its memory. -/
theorem keepers_addValue (s : Session) (name : String) (v : Value) (id : Nat) :
    (s.addValue name v).keepers id = s.keepers id + if v.memory? = some id then 1 else 0 := by
  have values := Names.countP_add (fun v : Value => v.memory? = some id) s.values name v
  simp only [keepers, addValue, values]
  omega

/-- A new pointer or view keeps the memory that it holds. -/
theorem keepers_addHold (s : Session) (name : String) (h : Hold) (id : Nat) :
    (s.addHold name h).keepers id = s.keepers id + if h.memory? = some id then 1 else 0 := by
  have holds := Names.countP_add (fun h : Hold => h.memory? = some id) s.holds name h
  simp only [keepers, addHold, holds]
  omega

/-- A pointer that has given its view back keeps nothing. -/
theorem keepers_setHold_none (hn : s.holds.names.Nodup) (hh : s.hold? name = some h)
    (origin : Pointer) (id : Nat) :
    (s.setHold name (.pointer ⟨origin.origin, none⟩)).keepers id +
      (if h.memory? = some id then 1 else 0) = s.keepers id := by
  have holds := Names.countP_replace (fun h : Hold => h.memory? = some id) hn hh
    (.pointer ⟨origin.origin, none⟩)
  rw [if_neg (show ¬ (Hold.pointer ⟨origin.origin, none⟩).memory? = some id from nofun)] at holds
  simp only [keepers, setHold]
  omega

/-- A pointer or view that goes keeps its memory no longer. -/
theorem keepers_forget_hold (hn : s.holds.names.Nodup) (hh : s.hold? name = some h)
    (unvalued : s.value? name = none) (id : Nat) :
    (s.forget name).keepers id + (if h.memory? = some id then 1 else 0) = s.keepers id := by
  have holds := Names.countP_remove (fun h : Hold => h.memory? = some id) hn hh
  have values := Names.remove_of_not_mem (Names.lookup?_eq_none_iff.1 unvalued)
  simp only [keepers, Session.forget, values]
  omega

/-- A handle that goes keeps its memory no longer. -/
theorem keepers_forget_value (hn : s.values.names.Nodup) (hv : s.value? name = some v)
    (unheld : s.hold? name = none) (id : Nat) :
    (s.forget name).keepers id + (if v.memory? = some id then 1 else 0) = s.keepers id := by
  have values := Names.countP_remove (fun v : Value => v.memory? = some id) hn hv
  have holds := Names.remove_of_not_mem (Names.lookup?_eq_none_iff.1 unheld)
  simp only [keepers, Session.forget, holds]
  omega

/-- A memory is kept exactly if a handle to it or a lease of it is there. -/
theorem keepers_pos_iff :
    0 < s.keepers id ↔ (∃ entry ∈ s.values, entry.2.memory? = some id) ∨
      ∃ entry ∈ s.holds, entry.2.memory? = some id := by
  simp only [keepers, Nat.add_pos_iff_pos_or_pos, List.countP_pos_iff, decide_eq_true_eq]

/-- A memory with a handle is kept. -/
theorem keepers_pos_of_value (hv : s.value? name = some v) (of : v.memory? = some id) :
    0 < s.keepers id :=
  keepers_pos_iff.2 (.inl ⟨_, Names.mem_of_lookup? hv, of⟩)

/-- A memory that is held is kept. -/
theorem keepers_pos_of_hold (hh : s.hold? name = some h) (of : h.memory? = some id) :
    0 < s.keepers id :=
  keepers_pos_iff.2 (.inr ⟨_, Names.mem_of_lookup? hh, of⟩)

/-- Nobody keeps a memory that is not there. -/
theorem Sound.lt_of_keepers (hs : s.Sound) (kept : 0 < s.keepers id) :
    id < s.store.memories.length := by
  rcases keepers_pos_iff.1 kept with ⟨⟨name, v⟩, there, of⟩ | ⟨⟨name, h⟩, there, of⟩
  · cases v with
    | plain => cases of
    | source source =>
      have present := hs.sources name source there
      cases source with
      | foreign => cases of
      | buffer b =>
        obtain rfl := Option.some.inj of
        exact present
      | tensor u =>
        obtain rfl := Option.some.inj of
        exact present
  · obtain ⟨l, hl, of⟩ := Option.bind_eq_some_iff.1 of
    have present := hs.hasLease (List.mem_append_left _ (List.mem_filterMap.2 ⟨_, there, hl⟩))
    cases l with
    | foreign => cases of
    | memory other w =>
      obtain rfl := Option.some.inj of
      exact present

/-! ### What is freed -/

/-- The memories that have been freed are those that nobody keeps. -/
structure Kept (s : Session) : Prop where
  freed : ∀ id, id ∈ s.store.freed ↔ id < s.store.memories.length ∧ s.keepers id = 0
  /-- No memory is freed twice. -/
  once : s.store.freed.Nodup

/-- Nothing has been freed in a session without anything. -/
theorem kept_empty : Kept {} := ⟨fun _ => ⟨nofun, nofun⟩, List.nodup_nil⟩

/-- **Shares that come.**  They come for a memory that has been kept before, or for a new one. -/
theorem Kept.gain (hk : s.Kept) (freed : s'.store.freed = s.store.freed)
    (grows : s.store.memories.length ≤ s'.store.memories.length)
    (keepers : ∀ id, s.keepers id ≤ s'.keepers id)
    (kept : ∀ id, 0 < s'.keepers id → 0 < s.keepers id ∨ s.store.memories.length ≤ id)
    (new : ∀ id, s.store.memories.length ≤ id → id < s'.store.memories.length →
      0 < s'.keepers id) : s'.Kept where
  freed := fun id => by
    rw [freed, hk.freed]
    have more := keepers id
    have before := kept id
    have after := new id
    omega
  once := freed ▸ hk.once

/-- A step that leaves the shares alone. -/
theorem Kept.store (hk : s.Kept) {store : Store}
    (length : store.memories.length = s.store.memories.length)
    (freed : store.freed = s.store.freed) : ({ s with store } : Session).Kept :=
  hk.gain freed (Nat.le_of_eq length.symm) (fun _ => Nat.le_refl _) (fun _ => .inl)
    fun _ old new => absurd new (Nat.not_lt_of_le (length ▸ old))

/-- What has been freed once a memory has lost a keeper is what had been freed before, and the memory
if it has no keeper left. -/
theorem mem_freedAfter_iff {id? : Option Nat} :
    id ∈ s.freedAfter id? ↔ id ∈ s.store.freed ∨ id? = some id ∧ s.keepers id = 0 := by
  cases id? with
  | none => simp [freedAfter]
  | some lost =>
    by_cases e : id = lost
    · subst e
      by_cases alone : s.keepers id = 0 <;> simp [freedAfter, alone]
    · by_cases alone : s.keepers lost = 0 <;> simp [freedAfter, alone, e, Ne.symm e]

/-- A memory that has not been freed before is not freed twice. -/
theorem nodup_freedAfter {id? : Option Nat} (once : s.store.freed.Nodup)
    (unfreed : ∀ id, id? = some id → id ∉ s.store.freed) : (s.freedAfter id?).Nodup := by
  cases id? with
  | none => exact once
  | some lost =>
    rw [freedAfter]
    split
    · refine List.nodup_append.2 ⟨once, by simp, fun id hm other ho => ?_⟩
      rintro rfl
      exact unfreed lost rfl (List.mem_singleton.1 ho ▸ hm)
    · exact once

/-- **A share that goes.**  The memory is freed if it was the last one. -/
theorem Kept.letGo {left : Session} (hk : s.Kept) (hs : s.Sound) {id? : Option Nat}
    (length : left.store.memories.length = s.store.memories.length)
    (freed : left.store.freed = s.store.freed)
    (keepers : ∀ id, left.keepers id + (if id? = some id then 1 else 0) = s.keepers id) :
    (left.letGo id?).Kept := by
  have there : (left.letGo id?).store.memories.length = s.store.memories.length := length
  have same : ∀ id, (left.letGo id?).keepers id = left.keepers id := fun _ => rfl
  refine ⟨fun id => ?_, nodup_freedAfter (freed ▸ hk.once) fun id lost => ?_⟩
  · have total := keepers id
    rw [there, same]
    refine mem_freedAfter_iff.trans ?_
    rw [freed, hk.freed]
    by_cases e : id? = some id
    · rw [if_pos e] at total
      -- only a memory that is there has had a share to lose
      have present : id < s.store.memories.length := hs.lt_of_keepers (by omega)
      simp only [e, true_and]
      omega
    · rw [if_neg e] at total
      simp only [e, false_and, or_false]
      omega
  · have total := keepers id
    rw [if_pos lost] at total
    rw [freed, hk.freed]
    omega

/-! ### What a move does to the shares -/

/-- A value that is made is a handle to a new memory, or no memory is made for it. -/
theorem Made.memory?_cases {store : Store} (made : Made s.store store v) :
    store.freed = s.store.freed ∧
      (v.memory? = none ∧ store.memories.length = s.store.memories.length ∨
        v.memory? = some s.store.memories.length ∧
          store.memories.length = s.store.memories.length + 1) := by
  cases made with
  | buffer => exact ⟨rfl, .inr ⟨rfl, by simp [Store.addMemory]⟩⟩
  | tensor fresh within =>
    exact ⟨rfl, .inr ⟨congrArg some within, by simp [Store.addMemory]⟩⟩
  | foreign => exact ⟨rfl, .inl ⟨rfl, rfl⟩⟩
  | plain => exact ⟨rfl, .inl ⟨rfl, rfl⟩⟩

/-- Entering a lease makes no memory and frees none. -/
theorem memories_enter (s : Store) (c : Contract) (l : Lease) :
    (s.enter c l).memories.length = s.memories.length ∧ (s.enter c l).freed = s.freed := by
  cases l with
  | memory => exact ⟨List.length_set, rfl⟩
  | foreign => exact ⟨rfl, rfl⟩

/-- Giving a lease back makes no memory and frees none by itself. -/
theorem memories_repay? (s : Store) (l : Option Lease) :
    (s.repay? l).memories.length = s.memories.length ∧ (s.repay? l).freed = s.freed := by
  cases l with
  | none => exact ⟨rfl, rfl⟩
  | some l =>
    cases l with
    | memory => exact ⟨List.length_set, rfl⟩
    | foreign => exact ⟨rfl, rfl⟩

/-- What is granted is a lease of the memory of the source. -/
theorem memory?_of_grants {store : Store} {c : Contract} {source : Source} {l : Lease}
    (grants : store.Grants c source l) : l.memory? = source.memory? := by
  cases grants with
  | owned of => exact of.symm
  | foreign => rfl

/-- A further share of a memory that is kept. -/
theorem Kept.share (hk : s.Kept) {more : Session} {id? : Option Nat}
    (length : more.store.memories.length = s.store.memories.length)
    (freed : more.store.freed = s.store.freed)
    (kept : ∀ id, id? = some id → 0 < s.keepers id)
    (keepers : ∀ id, more.keepers id = s.keepers id + if id? = some id then 1 else 0) :
    more.Kept := by
  refine hk.gain freed (Nat.le_of_eq length.symm) (fun id => ?_) (fun id has => .inl ?_)
    fun _ old new => absurd new (Nat.not_lt_of_le (length ▸ old))
  · rw [keepers]
    exact Nat.le_add_right _ _
  · by_cases e : id? = some id
    · exact kept id e
    · rwa [keepers, if_neg e, Nat.add_zero] at has

/-- A value that is made has the first share of the memory that is made for it, if one is. -/
theorem Kept.made (hk : s.Kept) {store : Store} (made : Made s.store store v) (name : String) :
    ({ s with store }.addValue name v).Kept := by
  have keepers : ∀ id, ({ s with store }.addValue name v).keepers id =
      s.keepers id + if v.memory? = some id then 1 else 0 :=
    keepers_addValue { s with store } name v
  obtain ⟨freed, ⟨plain, length⟩ | ⟨own, length⟩⟩ := made.memory?_cases
  · refine @Kept.share s hk _ none length freed nofun fun id => ?_
    rw [keepers, plain]
  -- nobody can keep a number that no memory has yet, so the new share is the only one
  · refine hk.gain freed (Nat.le.intro length.symm) (fun id => ?_) (fun id has => ?_)
      fun id old (new : id < store.memories.length) => ?_
    · rw [keepers]
      exact Nat.le_add_right _ _
    · rw [keepers, own] at has
      by_cases e : s.store.memories.length = id
      · exact .inr (Nat.le_of_eq e)
      · rw [if_neg (by simpa using e)] at has
        exact .inl has
    · have next : s.store.memories.length = id := by omega
      rw [keepers, own, if_pos (congrArg some next)]
      exact Nat.succ_pos _

/-- **Every move frees what it takes the last share of**, and nothing else. -/
theorem Move.kept (m : Move s t es s') (hs : s.Sound) (hn : s.Named) (hk : s.Kept) : s'.Kept := by
  cases m with
  | rest => exact hk
  | create _ made => exact hk.made made _
  | derive _ _ of made =>
    refine hk.share rfl rfl (fun id of' => ?_) (keepers_addValue s _ _)
    exact keepers_pos_of_value of ((memory?_of_derived made).symm.trans of')
  | write => exact hk.store List.length_set rfl
  | resize => exact hk.store List.length_set rfl
  | poison => exact hk.store List.length_set rfl
  | redescribe => exact hk.store rfl rfl
  | ask => exact hk.store rfl rfl
  | lose =>
    obtain ⟨length, freed⟩ := memories_enter s.store _ _
    exact hk.store length freed
  | @take name origin request source e untaken of acquires =>
    obtain ⟨length, freed⟩ := memories_enter s.store request.contract e.lease
    refine hk.share length freed (fun id of' => ?_) (keepers_addHold _ _ _)
    rw [Hold.memory?, Request.lease?_holding] at of'
    exact keepers_pos_of_value of ((memory?_of_grants acquires.grants).symm.trans of')
  | @reject name origin request source lease =>
    obtain ⟨length, freed⟩ := memories_enter s.store request.contract lease
    obtain ⟨length', freed'⟩ := memories_repay? (s.store.enter request.contract lease) (some lease)
    exact hk.store (length'.trans length) (freed'.trans freed)
  | @release name p of =>
    obtain ⟨length, freed⟩ := memories_repay? s.store (Hold.pointer p).lease?
    exact hk.letGo hs length freed (keepers_setHold_none hs.names of p)
  | @consume _ name h of =>
    obtain ⟨length, freed⟩ := memories_repay? s.store h.lease?
    exact hk.letGo hs length freed (keepers_forget_hold hs.names of (hn.apart name h of))
  | forget of unheld => exact hk.letGo hs rfl rfl (keepers_forget_value hn.values of unheld)

/-- No memory that has been freed comes back. -/
theorem Move.freed_prefix (m : Move s t es s') : s.store.freed <+: s'.store.freed := by
  have letGo : ∀ (left : Session) (id? : Option Nat), left.store.freed = s.store.freed →
      s.store.freed <+: (left.letGo id?).store.freed := by
    intro left id? same
    cases id? with
    | none => exact same ▸ List.prefix_rfl
    | some id =>
      simp only [Session.letGo, freedAfter, same]
      split
      · exact List.prefix_append _ _
      · exact List.prefix_rfl
  cases m with
  | create _ made => exact (Made.memory?_cases made).1 ▸ List.prefix_rfl
  | lose => exact (memories_enter s.store _ _).2 ▸ List.prefix_rfl
  | take => exact (memories_enter s.store _ _).2 ▸ List.prefix_rfl
  | reject =>
    exact ((memories_repay? _ (some _)).2.trans (memories_enter s.store _ _).2) ▸ List.prefix_rfl
  | release => exact letGo _ _ (memories_repay? s.store _).2
  | consume => exact letGo _ _ (memories_repay? s.store _).2
  | forget => exact letGo _ _ rfl
  | _ => exact List.prefix_rfl

/-! ### Runs -/

/-- No name ever stands for two things. -/
theorem after_named (hs : s.Sound) (hn : s.Named) (steps : List Step) : (s.after steps).Named :=
  after_keeps (fun m _ => m.named) hs hn steps

/-- In every session, the memories that have been freed are those that nobody keeps. -/
theorem after_kept (hs : s.Sound) (hn : s.Named) (hk : s.Kept) (steps : List Step) :
    (s.after steps).Kept := by
  have both := after_keeps (P := fun s => s.Named ∧ s.Kept)
    (fun m hs h => ⟨m.named h.1, m.kept hs h.1 h.2⟩) hs ⟨hn, hk⟩ steps
  exact both.2

/-- **A memory is freed with its last share.**  At every point of every session the memories that
have been freed are those that no named value is a handle to and that nothing held has a lease of.
None of them is freed twice, and none comes back. -/
theorem freed_iff_unkept (steps : List Step) (id : Nat) :
    let s := after {} steps
    (id ∈ s.store.freed ↔ id < s.store.memories.length ∧
      (∀ entry ∈ s.values, entry.2.memory? ≠ some id) ∧
      ∀ entry ∈ s.holds, entry.2.memory? ≠ some id) ∧
    s.store.freed.Nodup ∧ ∀ later, s.store.freed <+: (s.after later).store.freed := by
  intro s
  have hs : s.Sound := after_sound sound_empty steps
  have hk : s.Kept := after_kept sound_empty named_empty kept_empty steps
  refine ⟨?_, hk.once, fun later => ?_⟩
  · have unkept : s.keepers id = 0 ↔ ¬ 0 < s.keepers id := by omega
    rw [hk.freed, unkept, keepers_pos_iff]
    simp only [not_or, not_exists, not_and, ne_eq]
  · exact after_keeps (fun m _ => (List.IsPrefix.trans · m.freed_prefix)) hs List.prefix_rfl later

/-- **What is held keeps its memory alive**, whichever handles have gone: the memory is there, it
has not been freed, and foreign code reaches it. -/
theorem held_memory_lives {steps : List Step} (held : (after {} steps).hold? name = some h)
    (of : h.memory? = some id) :
    id < (after {} steps).store.memories.length ∧ id ∉ (after {} steps).store.freed ∧
      (after {} steps).reached? h = some id := by
  have hs : (after {} steps).Sound := after_sound sound_empty steps
  have hk : (after {} steps).Kept := after_kept sound_empty named_empty kept_empty steps
  have kept := keepers_pos_of_hold held of
  have unfreed : id ∉ (after {} steps).store.freed := fun freed =>
    Nat.ne_of_gt kept ((hk.freed id).1 freed).2
  exact ⟨hs.lt_of_keepers kept, unfreed, Option.filter_eq_some_iff.2 ⟨of, by simpa using unfreed⟩⟩

/-- Of a buffer and its clone the view is left, which keeps the memory until it is released. -/
example :
    let last := after {} [.create "buffer" (.zeroed 2), .clone "clone" "buffer",
      .acquire "view" "clone" (.viewUnder .simple), .drop "buffer", .drop "clone"]
    last.store.freed = [] ∧ (last.step (.use "view" .release)).session.store.freed = [0] := by
  decide

end Session
end MemoryLease
