/-!
# The axes of a contract

A caller that asks for a view of memory says, independently of each other, which contiguity it
relies on and how much shape metadata it wants.
-/

namespace MemoryLease

/-- The contiguity that a contract asks for (`Contiguity`). -/
inductive Contiguity where
  /-- No guarantee. -/
  | unspecified
  /-- Row-major order without gaps. -/
  | rowMajor
  /-- Column-major order without gaps. -/
  | columnMajor
  /-- One of the two orders, without gaps. -/
  | either
deriving DecidableEq

namespace Contiguity

/-- The word for a contiguity in running text. -/
def text : Contiguity → String
  | unspecified => "none"
  | rowMajor => "C"
  | columnMajor => "Fortran"
  | either => "any"

/-- The word for a contiguity as the value of a field. -/
def name : Contiguity → String
  | unspecified => "None"
  | rowMajor => "C"
  | columnMajor => "Fortran"
  | either => "Any"

end Contiguity

/-- The shape metadata that a contract asks for (`ShapeMetadata`).  Each level includes the ones
before it. -/
inductive Metadata where
  /-- No metadata: the view is a run of bytes. -/
  | flat
  /-- The extent of each dimension. -/
  | extents
  /-- Extents and byte strides. -/
  | strides
  /-- Extents, strides and the suboffsets of indirect addressing. -/
  | indirect
deriving DecidableEq

namespace Metadata

/-- The position of a level in the order of the levels. -/
def level : Metadata → Nat
  | flat => 0
  | extents => 1
  | strides => 2
  | indirect => 3

/-- No two levels stand at one position. -/
theorem level_injective {m n : Metadata} (h : m.level = n.level) : m = n := by
  revert h; cases m <;> cases n <;> decide

instance : LE Metadata := ⟨fun m n => m.level ≤ n.level⟩

instance (m n : Metadata) : Decidable (m ≤ n) := inferInstanceAs (Decidable (m.level ≤ n.level))

theorem le_iff_level_le {m n : Metadata} : m ≤ n ↔ m.level ≤ n.level := Iff.rfl

/-- The higher one of two levels. -/
def max (m n : Metadata) : Metadata :=
  if m ≤ n then n else m

/-- The word for a level in running text. -/
def text : Metadata → String
  | flat => "none"
  | extents => "extents"
  | strides => "strides"
  | indirect => "indirect"

/-- The word for a level as the value of a field. -/
def name : Metadata → String
  | flat => "None"
  | extents => "Extents"
  | strides => "Strides"
  | indirect => "Indirect"

end Metadata
end MemoryLease
