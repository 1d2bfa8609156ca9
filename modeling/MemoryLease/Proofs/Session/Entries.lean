import MemoryLease.Session.Names

/-!
# Entries of a table

A table in which no two entries bear one name splits around the entry of a name
(`exists_split_of_lookup?`), and on such a split replacing and removing are plain list equations.
-/

namespace MemoryLease
namespace Session
namespace Names

variable {α : Type} {t : Names α} {name : String} {a b : α}

theorem names_append (t u : Names α) : names (t ++ u) = t.names ++ u.names := List.map_append

/-- A new entry comes last. -/
theorem names_add (t : Names α) (name : String) (a : α) :
    (t.add name a).names = t.names ++ [name] :=
  names_append t _

/-- Replacing what a name stands for keeps the names. -/
theorem names_replace (t : Names α) (name : String) (a : α) :
    (t.replace name a).names = t.names := by
  unfold names replace
  rw [List.map_map]
  apply List.map_congr_left
  intro entry _
  by_cases h : entry.1 = name <;> simp [h]

/-- A free name keeps the names apart. -/
theorem nodup_names_add (h : t.names.Nodup) (hn : t.lookup? name = none) (a : α) :
    (t.add name a).names.Nodup := by
  rw [lookup?_eq_none_iff] at hn
  rw [names_add, List.nodup_append]
  refine ⟨h, by simp, fun m hm n hmem => ?_⟩
  rintro rfl
  exact hn (List.mem_singleton.1 hmem ▸ hm)

/-- The names that are left are still apart. -/
theorem nodup_names_remove (h : t.names.Nodup) (name : String) : (t.remove name).names.Nodup :=
  h.sublist (List.filter_sublist.map _)

/-- **The entry of a name** stands alone among the others. -/
theorem exists_split_of_lookup? (h : t.names.Nodup) (hl : t.lookup? name = some a) :
    ∃ before after : Names α, t = before ++ (name, a) :: after ∧ name ∉ before.names ∧
      name ∉ after.names := by
  obtain ⟨before, after, rfl⟩ := List.append_of_mem (mem_of_lookup? hl)
  rw [names_append, List.nodup_append] at h
  obtain ⟨-, ha, hd⟩ := h
  refine ⟨before, after, rfl, fun hm => hd name hm name (by simp [names]) rfl, ?_⟩
  exact (List.nodup_cons.1 ha).1

/-- Replacing what a free name stands for changes nothing. -/
theorem replace_of_not_mem (h : name ∉ t.names) (a : α) : t.replace name a = t := by
  refine (List.map_congr_left fun entry hm => ?_).trans (List.map_id t)
  rw [if_neg]
  · rfl
  · rintro rfl
    exact h (List.mem_map_of_mem hm)

/-- Removing a free name changes nothing. -/
theorem remove_of_not_mem (h : name ∉ t.names) : t.remove name = t := by
  unfold remove
  apply List.filter_eq_self.2
  intro entry hm
  rw [decide_eq_true_iff]
  rintro rfl
  exact h (List.mem_map_of_mem hm)

/-- Replacing what a name stands for changes its entry and no other. -/
theorem replace_split {before after : Names α} (hb : name ∉ before.names)
    (ha : name ∉ after.names) (a b : α) :
    replace (before ++ (name, a) :: after) name b = before ++ (name, b) :: after := by
  have happ : replace (before ++ (name, a) :: after) name b =
      before.replace name b ++ (name, b) :: after.replace name b := by
    simp [replace]
  rw [happ, replace_of_not_mem hb, replace_of_not_mem ha]

/-- Removing a name takes out its entry and no other. -/
theorem remove_split {before after : Names α} (hb : name ∉ before.names)
    (ha : name ∉ after.names) (a : α) :
    remove (before ++ (name, a) :: after) name = before ++ after := by
  have happ : remove (before ++ (name, a) :: after) name =
      before.remove name ++ after.remove name := by
    simp [remove]
  rw [happ, remove_of_not_mem hb, remove_of_not_mem ha]

/-! ### How many entries are of a kind -/

section Count

variable (p : α → Prop) [DecidablePred p]

/-- A new entry is counted as what it is. -/
theorem countP_add (t : Names α) (name : String) (a : α) :
    (t.add name a).countP (fun entry => p entry.2) =
      t.countP (fun entry => p entry.2) + if p a then 1 else 0 := by
  simp [add, List.countP_append, List.countP_cons]

/-- An entry that changes is counted as what it has become. -/
theorem countP_replace (h : t.names.Nodup) (hl : t.lookup? name = some a) (b : α) :
    (t.replace name b).countP (fun entry => p entry.2) + (if p a then 1 else 0) =
      t.countP (fun entry => p entry.2) + if p b then 1 else 0 := by
  obtain ⟨before, after, rfl, hb, ha⟩ := exists_split_of_lookup? h hl
  rw [replace_split hb ha]
  simp only [List.countP_append, List.countP_cons, decide_eq_true_eq]
  omega

/-- An entry that goes is counted no more. -/
theorem countP_remove (h : t.names.Nodup) (hl : t.lookup? name = some a) :
    (t.remove name).countP (fun entry => p entry.2) + (if p a then 1 else 0) =
      t.countP (fun entry => p entry.2) := by
  obtain ⟨before, after, rfl, hb, ha⟩ := exists_split_of_lookup? h hl
  rw [remove_split hb ha]
  simp only [List.countP_append, List.countP_cons, decide_eq_true_eq]
  omega

end Count

/-- An entry of a table that has got a new one is an old one, or what came. -/
theorem mem_of_mem_add {other : String} (h : (other, b) ∈ t.add name a) :
    (other, b) ∈ t ∨ b = a := by
  rcases List.mem_append.1 h with h | h
  · exact .inl h
  · exact .inr (congrArg Prod.snd (List.mem_singleton.1 h))

/-- An entry that is left was there before. -/
theorem mem_of_mem_remove {entry : String × α} (h : entry ∈ t.remove name) : entry ∈ t :=
  (List.mem_filter.1 h).1

/-- What a name stands for when a free name has come: what it stood for before, or what came. -/
theorem lookup?_of_add {other : String} {b : α} (free : t.lookup? other = none)
    (h : (t.add other b).lookup? name = some a) :
    t.lookup? name = some a ∨ other = name ∧ b = a := by
  by_cases e : other = name
  · subst e
    rw [lookup?_add_self free] at h
    exact .inr ⟨rfl, Option.some.inj h⟩
  · rw [lookup?_add_of_ne t e] at h
    exact .inl h

/-- What a name still stands for when another one has gone. -/
theorem lookup?_of_remove {other : String} (h : (t.remove other).lookup? name = some a) :
    t.lookup? name = some a := by
  by_cases e : other = name
  · subst e
    rw [lookup?_remove_self] at h
    cases h
  · rwa [lookup?_remove_of_ne t e] at h

/-- A name that stands for nothing still does when another one has gone. -/
theorem lookup?_remove_of_none {other : String} (h : t.lookup? name = none) :
    (t.remove other).lookup? name = none := by
  cases he : (t.remove other).lookup? name with
  | none => rfl
  | some a =>
    rw [lookup?_of_remove he] at h
    cases h

/-- A name stands for what has replaced the thing that it stood for. -/
theorem lookup?_replace_self (h : t.lookup? name = some a) (b : α) :
    (t.replace name b).lookup? name = some b := by
  induction t with
  | nil => cases h
  | cons entry rest ih =>
    obtain ⟨other, c⟩ := entry
    by_cases e : other = name
    · simp [replace, lookup?, e]
    · simp only [lookup?, e, if_false] at h
      simpa [replace, lookup?, e] using ih h

end Names
end Session
end MemoryLease
