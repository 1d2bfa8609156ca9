/-!
# Items and their bytes

An item type fixes how many bytes an item takes and how they are read.  The value of an item is an
integer: the number itself for the integer types, the bit pattern for the floating-point types,
which are never computed with.  The bytes of an item are little-endian, and a negative number is
its two's complement.  Writing a value of a type and reading it back gives the value, and so does
reading bytes and writing them back.

The types are those that implement `Element`, and `format` is its `FORMAT`.
-/

namespace MemoryLease

/-- The type of an item (`Element`). -/
inductive ItemType where
  | uint8 | int8 | uint16 | int16 | uint32 | int32 | uint64 | int64
  /-- An unsigned integer as wide as an address. -/
  | word
  /-- A signed integer as wide as an address. -/
  | signedWord
  | float32 | float64
deriving DecidableEq

namespace ItemType

/-- The number of bytes of an item, which is also its alignment. -/
def size : ItemType → Nat
  | uint8 | int8 => 1
  | uint16 | int16 => 2
  | uint32 | int32 | float32 => 4
  | uint64 | int64 | word | signedWord | float64 => 8

/-- Every item takes some room. -/
theorem size_pos (t : ItemType) : 0 < t.size := by
  cases t <;> decide

/-- The format code of an item. -/
def format : ItemType → String
  | uint8 => "B"
  | int8 => "b"
  | uint16 => "H"
  | int16 => "h"
  | uint32 => "I"
  | int32 => "i"
  | uint64 => "Q"
  | int64 => "q"
  | word => "N"
  | signedWord => "n"
  | float32 => "f"
  | float64 => "d"

/-- Whether an item may be negative. -/
def isSigned : ItemType → Bool
  | int8 | int16 | int32 | int64 | signedWord => true
  | _ => false

/-- Whether an item is a floating-point number. -/
def isFloat : ItemType → Bool
  | float32 | float64 => true
  | _ => false

/-- The number of bit patterns of an item. -/
def patterns (t : ItemType) : Nat := Nat.pow 256 t.size

/-- The smallest value of an item. -/
def least (t : ItemType) : Int :=
  if t.isSigned then -((t.patterns / 2 : Nat) : Int) else 0

/-- A value that an item of the type can have. -/
def Holds (t : ItemType) (value : Int) : Prop :=
  t.least ≤ value ∧ value < t.least + t.patterns

instance (t : ItemType) (value : Int) : Decidable (t.Holds value) :=
  inferInstanceAs (Decidable (_ ∧ _))

example : int8.least = -128 ∧ int8.Holds 127 ∧ ¬ int8.Holds 128 ∧ uint16.Holds 65535 := by decide

end ItemType

/-! ### Little-endian bytes -/

namespace Bytes

/-- The lowest `count` bytes of a number, the lowest first. -/
def ofNat : Nat → Nat → List UInt8
  | 0, _ => []
  | count + 1, n => UInt8.ofNat n :: ofNat count (n / 256)

/-- The number of which the given bytes are the lowest, the lowest first, and all others zero. -/
def toNat : List UInt8 → Nat
  | [] => 0
  | b :: bs => b.toNat + 256 * toNat bs

/-- A number is written in as many bytes as it is given. -/
theorem length_ofNat (count n : Nat) : (ofNat count n).length = count := by
  induction count generalizing n with
  | zero => rfl
  | succ count ih => simp [ofNat, ih]

/-- The number that `k` bytes make is less than `256 ^ k`. -/
theorem toNat_lt (bytes : List UInt8) : toNat bytes < Nat.pow 256 bytes.length := by
  induction bytes with
  | nil => decide
  | cons b bs ih =>
    have hb := b.toNat_lt
    have more : Nat.pow 256 (bs.length + 1) = Nat.pow 256 bs.length * 256 := rfl
    rw [toNat, List.length_cons, more]
    omega

/-- Reading back what has been written gives the number, less what there was no room for. -/
theorem toNat_ofNat (count n : Nat) : toNat (ofNat count n) = n % Nat.pow 256 count := by
  induction count generalizing n with
  | zero => exact (Nat.mod_one n).symm
  | succ count ih =>
    have more : Nat.pow 256 (count + 1) = 256 * Nat.pow 256 count := Nat.mul_comm _ _
    rw [ofNat, toNat, ih, more, Nat.mod_mul, UInt8.toNat_ofNat']

/-- Writing what has been read gives the same bytes. -/
theorem ofNat_toNat (bytes : List UInt8) : ofNat bytes.length (toNat bytes) = bytes := by
  induction bytes with
  | nil => rfl
  | cons b bs ih =>
    have hb := b.toNat_lt
    have hd : (b.toNat + 256 * toNat bs) / 256 = toNat bs := by omega
    have hm : UInt8.ofNat (b.toNat + 256 * toNat bs) = b := by
      apply UInt8.toNat_inj.1
      rw [UInt8.toNat_ofNat']
      omega
    simp only [List.length_cons, toNat, ofNat, hd, hm, ih]

end Bytes

namespace ItemType

/-- The bytes of an item of the given value. -/
def encode (t : ItemType) (value : Int) : List UInt8 :=
  Bytes.ofNat t.size (value % t.patterns).toNat

/-- The value of an item of the given bytes. -/
def decode (t : ItemType) (bytes : List UInt8) : Int :=
  let n := Bytes.toNat bytes
  if t.isSigned ∧ t.patterns ≤ 2 * n then (n : Int) - t.patterns else n

/-- An item is encoded in as many bytes as it takes. -/
theorem length_encode (t : ItemType) (value : Int) : (t.encode value).length = t.size :=
  Bytes.length_ofNat _ _

theorem patterns_pos (t : ItemType) : 0 < t.patterns :=
  Nat.pow_pos (by decide)

/-- Half the bit patterns are those of the negative numbers. -/
theorem two_mul_half_patterns (t : ItemType) : 2 * (t.patterns / 2) = t.patterns := by
  cases t <;> rfl

/-- The bytes of an item spell its value, modulo the number of the patterns. -/
theorem toNat_encode (t : ItemType) (value : Int) :
    (Bytes.toNat (t.encode value) : Int) = value % t.patterns := by
  have hp : (0 : Int) < t.patterns := Int.natCast_pos.2 t.patterns_pos
  have h₀ := Int.emod_nonneg value (Int.ne_of_gt hp)
  have h₁ := Int.emod_lt_of_pos value hp
  have h₂ : (value % t.patterns).toNat % t.patterns = (value % t.patterns).toNat :=
    Nat.mod_eq_of_lt (by omega)
  rw [encode, Bytes.toNat_ofNat]
  change (((value % t.patterns).toNat % t.patterns : Nat) : Int) = _
  rw [h₂]
  omega

/-- **Writing and reading.**  An item written is read back as it was. -/
theorem decode_encode {t : ItemType} {value : Int} (h : t.Holds value) :
    t.decode (t.encode value) = value := by
  obtain ⟨hl, hu⟩ := h
  have hn := t.toNat_encode value
  have hh := t.two_mul_half_patterns
  simp only [decode]
  rcases Int.lt_or_le value 0 with hv | hv
  · have hs : t.isSigned = true := by
      by_cases hs : t.isSigned = true
      · exact hs
      · simp only [least, hs, Bool.false_eq_true, if_false] at hl
        omega
    simp only [least, hs, if_true] at hl hu
    have hw : value % t.patterns = value + t.patterns := by
      rw [← Int.add_emod_right, Int.emod_eq_of_lt] <;> omega
    rw [hs, if_pos ⟨rfl, by omega⟩]
    omega
  · by_cases hs : t.isSigned = true
    · simp only [least, hs, if_true] at hu
      have hw : value % t.patterns = value := Int.emod_eq_of_lt hv (by omega)
      rw [if_neg (by omega)]
      omega
    · simp only [least, hs, Bool.false_eq_true, if_false] at hu
      have hw : value % t.patterns = value := Int.emod_eq_of_lt hv (by omega)
      rw [if_neg (fun e => hs e.1)]
      omega

/-- **Reading and writing.**  The bytes of an item are those that its value is written as. -/
theorem encode_decode {t : ItemType} {bytes : List UInt8} (h : bytes.length = t.size) :
    t.encode (t.decode bytes) = bytes := by
  have hlt : Bytes.toNat bytes < t.patterns := by
    have := Bytes.toNat_lt bytes
    rwa [h] at this
  have hm : (t.decode bytes % t.patterns).toNat = Bytes.toNat bytes := by
    simp only [decode]
    split
    · rw [Int.sub_emod_right, Int.emod_eq_of_lt (by omega) (by omega)]
      omega
    · rw [Int.emod_eq_of_lt (by omega) (by omega)]
      omega
  rw [encode, hm, ← h, Bytes.ofNat_toNat]

/-- The bytes of an item are read as a value that the type can have. -/
theorem holds_decode {t : ItemType} {bytes : List UInt8} (h : bytes.length = t.size) :
    t.Holds (t.decode bytes) := by
  have hlt : Bytes.toNat bytes < t.patterns := by
    have := Bytes.toNat_lt bytes
    rwa [h] at this
  have hh := t.two_mul_half_patterns
  simp only [Holds, decode, least]
  by_cases hs : t.isSigned = true
  · rcases Nat.lt_or_ge (2 * Bytes.toNat bytes) t.patterns with hn | hn
    · rw [if_pos hs, if_neg (by omega)]
      omega
    · rw [if_pos hs, if_pos ⟨hs, hn⟩]
      omega
  · rw [if_neg hs, if_neg (fun e => hs e.1)]
    omega

example : int16.encode (-2) = [254, 255] ∧ int16.decode [254, 255] = -2 ∧
    uint16.decode [254, 255] = 65534 := by decide

end ItemType
end MemoryLease
