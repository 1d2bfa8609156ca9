import MemoryLease.Proofs.Session.Holding

/-!
# Pointers to write at

Whether a view is outstanding alone and whether a pointer tells an address to write at are decided
in two places.  A memory goes by the contract: a view that is acquired for writing is outstanding
alone.  A pointer goes by the handle: it tells the address unless the handle that it was acquired
from is for reading only (`pointer_for_writing_alone`).  The two agree for a contract for writing.
For a contract for reading they do not: any number of pointers that were acquired for reading are
outstanding at a time, and each of them tells the address to write at
(`readers_both_write`).
-/

namespace MemoryLease
namespace Session

variable {s : Session} {name : String} {e : ExportedView} {p : Pointer} {id : Nat} {w : Bool}

namespace Sound

/-- A view for writing that is not returned is outstanding alone. -/
theorem count_of_writer (hs : s.Sound) (hl : Lease.memory id true ∈ s.unreturned) :
    s.unreturned.count (.memory id true) = 1 ∧ s.unreturned.count (.memory id false) = 0 := by
  have writers := hs.views id true
  have readers := hs.views id false
  have some_writer : 0 < s.unreturned.count (.memory id true) := List.count_pos_iff.2 hl
  obtain ⟨one, others⟩ := hs.alone id
  have exactly : (s.store.memory id).views true = 1 := by omega
  have nobody := others exactly
  exact ⟨by omega, by omega⟩

/-- Who holds a lease for writing holds the only lease of its memory. -/
theorem name_eq_of_writer (hs : s.Sound) {h h' : Hold} {other : String}
    (hh : s.hold? name = some h) (hl : h.lease? = some (.memory id true))
    (hh' : s.hold? other = some h') (hl' : h'.lease? = some (.memory id w)) : other = name := by
  by_contra hne
  obtain ⟨writers, readers⟩ := hs.count_of_writer (lease_mem_unreturned hh hl)
  -- what the other one holds is still there when the first one has gone
  have kept : (s.forget name).hold? other = some h' :=
    (Names.lookup?_remove_of_ne s.holds (Ne.symm hne)).trans hh'
  have left : 0 < (s.forget name).unreturned.count (.memory id w) :=
    List.count_pos_iff.2 (lease_mem_unreturned kept hl')
  have total := unreturned_forget hs.names hh (.memory id w)
  rw [hl] at total
  cases w with
  | false => omega
  | true =>
    rw [Option.toList_some, List.count_singleton_self] at total
    omega

end Sound

/-- **A pointer that was acquired for writing is alone.**  A pointer to a memory tells the address
to write at unless the handle that it was acquired from is for reading only.  If it was acquired for
writing, it does so, its view is the only one of the memory that is outstanding, and nobody else
holds one.  If it was acquired for reading, all views of the memory that are outstanding are for
reading. -/
theorem pointer_for_writing_alone {steps : List Step}
    (held : (after {} steps).hold? name = some (.pointer p)) (unreleased : p.exported = some e)
    (lease : e.lease = .memory id w) :
    ∃ before origin request source later, steps = before ++ .acquire name origin request :: later ∧
      (after {} before).value? origin = some (.source source) ∧ source.memory? = some id ∧
      w = request.contract.isWritable ∧
      let s := after {} steps
      let m := s.store.memory id
      (s.step (.use name .writeAddress)).reply =
        (if source.isReadOnly then .failed (.refused .readOnly)
          else .answer (.address (m.base id))) ∧
      (w = true → source.isReadOnly = false ∧ m.outstanding = 1 ∧
        ∀ other h w', s.hold? other = some h → h.lease? = some (.memory id w') → other = name) ∧
      (w = false → m.outstanding = s.unreturned.count (.memory id false)) := by
  have hs : (after {} steps).Sound := after_sound sound_empty steps
  have he : (Hold.pointer p).exported? = some e := unreleased
  have hl : (Hold.pointer p).lease? = some (.memory id w) := by
    rw [Hold.lease?_eq, he, Option.map_some, lease]
  have hm := lease_mem_unreturned held hl
  obtain ⟨before, origin, request, source, later, rfl, of, acquires, -, -, place⟩ :=
    held_since held he
  obtain ⟨owned, -, r, hr, hn⟩ := acquires.owned lease
  obtain ⟨base, access⟩ := Source.region_eq_ok owned hr
  have asked : w = request.contract.isWritable := by
    have he := acquires.lease_eq owned
    rw [lease] at he
    exact (Lease.memory.inj he).2
  refine ⟨before, origin, request, source, later, rfl, of, owned, asked, ?_⟩
  intro s m
  have alone : Lease.memory id true ∈ s.unreturned → s.unreturned.count (.memory id true) = 1 ∧
      s.unreturned.count (.memory id false) = 0 := hs.count_of_writer
  have views : m.outstanding = s.unreturned.count (.memory id false) +
      s.unreturned.count (.memory id true) := by
    rw [Memory.outstanding_eq, hs.views, hs.views]
  refine ⟨?_, ?_, ?_⟩
  · have told : p.writeAddress =
        if source.isReadOnly then .error .readOnly else .ok (m.base id) := by
      have address : e.view.address = m.base id := by
        rw [Region.address_of_negotiate hn, base, (place id w lease).base]
      simp only [Pointer.writeAddress, Pointer.view, unreleased, address,
        Region.readOnly_of_negotiate hn, access]
    have used : s.step (.use name .writeAddress) =
        s.replying (.unlessRefused (p.writeAddress.map .address)) := by
      rw [step_use, use, show s.hold? name = _ from held]
      rfl
    rw [used, told]
    cases source.isReadOnly <;> rfl
  · rintro rfl
    obtain ⟨writers, readers⟩ := alone hm
    refine ⟨?_, by omega, fun other h w' hh hl' => hs.name_eq_of_writer held hl hh hl'⟩
    rw [← access]
    exact (Region.negotiate_eq_ok hn).1 asked.symm
  · rintro rfl
    by_contra hne
    have writer : Lease.memory id true ∈ s.unreturned := List.count_pos_iff.1 (by omega)
    obtain ⟨-, readers⟩ := alone writer
    have reader : 0 < s.unreturned.count (.memory id false) := List.count_pos_iff.2 hm
    omega

/-- A pointer for writing is held, and a further pointer is refused. -/
theorem pointer_for_writing_alone_second_refused :
    let s := Session.after {} [.create "buffer" (.zeroed 4),
      .acquire "writer" "buffer" (.pointerUnder (.ofFlags [.writable])),
      .acquire "reader" "buffer" .simplePointer]
    ∃ p e, s.hold? "writer" = some (.pointer p) ∧ p.exported = some e ∧
      e.lease = .memory 0 true ∧ (s.store.memory 0).outstanding = 1 ∧
      ∀ other h w, s.hold? other = some h → h.lease? = some (.memory 0 w) → other = "writer" := by
  have held : (Session.after {} [.create "buffer" (.zeroed 4),
      .acquire "writer" "buffer" (.pointerUnder (.ofFlags [.writable])),
      .acquire "reader" "buffer" .simplePointer]).hold? "writer" =
    some (.pointer (.ofView ⟨⟨.heap 0 0, 4, 1, 1, false, none, none, none, none⟩,
      .memory 0 true⟩)) := rfl
  obtain ⟨before, origin, request, source, later, -, -, -, -, -, alone, -⟩ :=
    pointer_for_writing_alone held rfl rfl
  obtain ⟨-, one, only⟩ := alone rfl
  exact ⟨_, _, held, rfl, rfl, one, only⟩

/-- Two pointers that were acquired for reading are held, and both tell the address to write at. -/
theorem readers_both_write :
    let s := Session.after {} [.create "buffer" (.zeroed 4),
      .acquire "first" "buffer" .simplePointer, .acquire "second" "buffer" .simplePointer]
    (s.step (.use "first" .writeAddress)).reply = .answer (.address (.heap 0 0)) ∧
      (s.step (.use "second" .writeAddress)).reply = .answer (.address (.heap 0 0)) ∧
      (s.store.memory 0).outstanding = 2 :=
  ⟨rfl, rfl, rfl⟩

end Session
end MemoryLease
