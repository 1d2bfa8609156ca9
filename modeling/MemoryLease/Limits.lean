/-!
# The limits of a 64-bit address space

Sizes, extents, addresses and counts are natural numbers, byte strides and byte offsets are
integers, and both are unbounded here.  The machine keeps a size in 64 unsigned bits and a stride
in 64 signed ones, so a computed size or stride is kept only if it fits: `size?` and `offset?`
answer `none` where it does not, and no arithmetic of this library wraps.
-/

namespace MemoryLease

/-- The largest size, extent, count or address, `2^64 - 1`. -/
def sizeMax : Nat := 18446744073709551615

/-- The largest byte stride or byte offset, `2^63 - 1`. -/
def offsetMax : Int := 9223372036854775807

/-- The smallest byte stride or byte offset, `-2^63`. -/
def offsetMin : Int := -9223372036854775808

example : sizeMax = 2 ^ 64 - 1 ∧ offsetMax = 2 ^ 63 - 1 ∧ offsetMin = -2 ^ 63 := by decide

/-- Every offset that is not negative is a size. -/
theorem offsetMax_lt_sizeMax : offsetMax < (sizeMax : Int) := by decide

/-- A number as a size, if it is at most `sizeMax`. -/
def size? (n : Nat) : Option Nat :=
  if n ≤ sizeMax then some n else none

/-- A number is a size exactly if it is not larger than the largest one. -/
theorem size?_eq_some_iff {n m : Nat} : size? n = some m ↔ n ≤ sizeMax ∧ m = n := by
  unfold size?
  split
  · rename_i h
    simp [h, eq_comm]
  · rename_i h
    simp [h]

/-- A number as a byte stride or byte offset, if it lies between `offsetMin` and `offsetMax`. -/
def offset? (z : Int) : Option Int :=
  if offsetMin ≤ z ∧ z ≤ offsetMax then some z else none

/-- A number is an offset exactly if it lies between the smallest and the largest one. -/
theorem offset?_eq_some_iff {z w : Int} :
    offset? z = some w ↔ (offsetMin ≤ z ∧ z ≤ offsetMax) ∧ w = z := by
  unfold offset?
  split
  · rename_i h
    simp [h, eq_comm]
  · rename_i h
    simp [h]

/-- A number is no offset exactly if it lies outside the range of the offsets. -/
theorem offset?_eq_none_iff {z : Int} : offset? z = none ↔ z < offsetMin ∨ offsetMax < z := by
  unfold offset?
  split <;> simp <;> omega

/-- A size is a stride exactly when it is at most `offsetMax`. -/
theorem offset?_natCast_eq_some_iff {n : Nat} {w : Int} :
    offset? (n : Int) = some w ↔ (n : Int) ≤ offsetMax ∧ w = n := by
  rw [offset?_eq_some_iff]
  unfold offsetMin offsetMax
  constructor
  · rintro ⟨⟨_, h⟩, rfl⟩
    exact ⟨h, rfl⟩
  · rintro ⟨h, rfl⟩
    exact ⟨⟨by omega, h⟩, rfl⟩

end MemoryLease
