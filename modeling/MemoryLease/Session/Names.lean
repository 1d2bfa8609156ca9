/-!
# Names

What has a name in a session is kept in a table, in the order in which the names were given.  A name
stands for the first entry that bears it; where no two entries bear one name, as in every session
that starts empty, it is the only one.
-/

namespace MemoryLease
namespace Session

/-- Things with a name. -/
abbrev Names (α : Type) := List (String × α)

namespace Names

variable {α : Type}

/-- What a name stands for. -/
def lookup? : Names α → String → Option α
  | [], _ => none
  | (other, a) :: rest, name => if other = name then some a else lookup? rest name

/-- The table with one more entry. -/
def add (t : Names α) (name : String) (a : α) : Names α := t ++ [(name, a)]

/-- The table in which a name that stands for something stands for something else. -/
def replace (t : Names α) (name : String) (a : α) : Names α :=
  t.map fun entry => if entry.1 = name then (name, a) else entry

/-- The table in which a name stands for nothing. -/
def remove (t : Names α) (name : String) : Names α :=
  t.filter fun entry => entry.1 ≠ name

/-- The names of a table. -/
def names (t : Names α) : List String := t.map Prod.fst

/-- A name stands for nothing exactly if no entry bears it. -/
theorem lookup?_eq_none_iff {t : Names α} {name : String} :
    t.lookup? name = none ↔ name ∉ t.names := by
  induction t with
  | nil => simp [lookup?, names]
  | cons entry rest ih =>
    obtain ⟨other, a⟩ := entry
    by_cases h : other = name
    · simp [lookup?, names, h]
    · have h' : name ≠ other := fun e => h e.symm
      simp only [names] at ih
      simp [lookup?, names, h, h', ih]

/-- What a name stands for is an entry of the table. -/
theorem mem_of_lookup? {t : Names α} {name : String} {a : α} (h : t.lookup? name = some a) :
    (name, a) ∈ t := by
  induction t with
  | nil => simp [lookup?] at h
  | cons entry rest ih =>
    obtain ⟨other, b⟩ := entry
    by_cases e : other = name
    · simp only [lookup?, e, if_true, Option.some.injEq] at h
      simp [e, h]
    · simp only [lookup?, e, if_false] at h
      exact List.mem_cons_of_mem _ (ih h)

/-- A free name stands for what it is given. -/
@[simp] theorem lookup?_add_self {t : Names α} {name : String} (h : t.lookup? name = none) (a : α) :
    (t.add name a).lookup? name = some a := by
  induction t with
  | nil => simp [add, lookup?]
  | cons entry rest ih =>
    obtain ⟨other, b⟩ := entry
    by_cases e : other = name
    · simp [lookup?, e] at h
    · simp only [lookup?, e, if_false] at h
      simpa [add, lookup?, e] using ih h

/-- Giving a name to something leaves the other names alone. -/
@[simp] theorem lookup?_add_of_ne (t : Names α) {name other : String} (h : name ≠ other) (a : α) :
    (t.add name a).lookup? other = t.lookup? other := by
  induction t with
  | nil => simp [add, lookup?, h]
  | cons entry rest ih =>
    obtain ⟨first, b⟩ := entry
    by_cases e : first = other
    · simp [add, lookup?, e]
    · simpa [add, lookup?, e] using ih

/-- Replacing what a name stands for leaves the other names alone. -/
@[simp] theorem lookup?_replace_of_ne (t : Names α) {name other : String} (h : name ≠ other)
    (a : α) : (t.replace name a).lookup? other = t.lookup? other := by
  induction t with
  | nil => rfl
  | cons entry rest ih =>
    obtain ⟨first, b⟩ := entry
    have ih' : lookup? (rest.map fun entry => if entry.1 = name then (name, a) else entry) other =
        lookup? rest other := ih
    by_cases e : first = name
    · subst e
      simp [replace, lookup?, h, ih']
    · simp [replace, lookup?, e, ih']

/-- A name that is removed stands for nothing. -/
@[simp] theorem lookup?_remove_self (t : Names α) (name : String) :
    (t.remove name).lookup? name = none := by
  rw [lookup?_eq_none_iff]
  simp [names, remove]

/-- Removing a name leaves the others alone. -/
@[simp] theorem lookup?_remove_of_ne (t : Names α) {name other : String} (h : name ≠ other) :
    (t.remove name).lookup? other = t.lookup? other := by
  induction t with
  | nil => rfl
  | cons entry rest ih =>
    obtain ⟨first, b⟩ := entry
    by_cases e : first = name
    · subst e
      have : remove ((first, b) :: rest) first = remove rest first := by simp [remove]
      rw [this, ih]
      simp [lookup?, h]
    · have : remove ((first, b) :: rest) name = (first, b) :: remove rest name := by
        simp [remove, e]
      rw [this]
      simp only [lookup?, ih]

end Names
end Session
end MemoryLease
