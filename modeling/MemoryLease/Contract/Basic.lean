import MemoryLease.Contract.Axes

/-!
# Contracts

A contract is what a caller declares when it asks for a view of memory: a set of flags in a 32-bit
word.  The numbers are stable, because foreign code passes them around.  Any word is a contract
(`from_bits`); `Contract.flaw?` tells what is wrong with one that asks for something inconsistent,
the first flaw in the order of the checks of `Contract.validate`.
-/

namespace MemoryLease

/-- A request that a contract can make. -/
inductive Flag where
  /-- Access for writing. -/
  | writable
  /-- The format code of an item. -/
  | format
  /-- The extent of each dimension. -/
  | extents
  /-- The byte stride of each dimension. -/
  | strides
  /-- Row-major order without gaps. -/
  | rowMajor
  /-- Column-major order without gaps. -/
  | columnMajor
  /-- Either order without gaps. -/
  | anyOrder
  /-- Suboffsets, for indirect addressing. -/
  | suboffsets
deriving DecidableEq

namespace Flag

/-- The bit that stands for a flag. -/
def position : Flag → Nat
  | writable => 0
  | format => 2
  | extents => 3
  | strides => 4
  | rowMajor => 5
  | columnMajor => 6
  | anyOrder => 7
  | suboffsets => 8

/-- Each flag has a bit of its own. -/
theorem position_injective {f g : Flag} (h : f.position = g.position) : f = g := by
  revert h; cases f <;> cases g <;> decide

/-- The flags lie in the lowest nine bits. -/
theorem position_lt (f : Flag) : f.position < 9 := by
  cases f <;> decide

/-- All flags. -/
def all : List Flag :=
  [writable, format, extents, strides, rowMajor, columnMajor, anyOrder, suboffsets]

/-- Every flag is listed. -/
theorem mem_all (f : Flag) : f ∈ all := by
  cases f <;> decide

/-- The flags that ask for an order. -/
def orders : List Flag := [rowMajor, columnMajor, anyOrder]

end Flag

/-- The access and layout that a caller asks for, as a word of flags. -/
structure Contract where
  /-- The stable numeric form. -/
  bits : BitVec 32
deriving DecidableEq

namespace Contract

/-- The contract with exactly the given flags. -/
def ofFlags : List Flag → Contract
  | [] => ⟨0⟩
  | f :: fs => ⟨BitVec.twoPow 32 f.position ||| (ofFlags fs).bits⟩

/-- Everything that either of two contracts asks for (`bitor`). -/
def union (c d : Contract) : Contract := ⟨c.bits ||| d.bits⟩

/-- Whether a contract has a flag. -/
def has (c : Contract) (f : Flag) : Bool := c.bits.getLsbD f.position

/-- A union has the flags of both contracts. -/
theorem has_union (c d : Contract) (f : Flag) : (c.union d).has f = (c.has f || d.has f) := by
  simp [has, union]

/-- A contract that is made of some flags has these and no other. -/
theorem has_ofFlags (fs : List Flag) (f : Flag) : (ofFlags fs).has f = decide (f ∈ fs) := by
  induction fs with
  | nil => simp [has, ofFlags]
  | cons g gs ih =>
    have hlt : g.position < 32 := by have := g.position_lt; omega
    have hg : decide (g.position = f.position) = decide (f = g) := by
      rw [decide_eq_decide]
      exact ⟨fun h => (Flag.position_injective h).symm, fun h => by rw [h]⟩
    simp only [has] at ih
    simp only [has, ofFlags, BitVec.getLsbD_or, BitVec.getLsbD_twoPow, ih, hg, hlt, decide_true,
      Bool.true_and, List.mem_cons, Bool.decide_or]

/-- Whether the caller means to write through the address that it gets (`is_writable`). -/
def isWritable (c : Contract) : Bool := c.has .writable

/-- Whether the caller wants the format code of an item (`wants_format`). -/
def wantsFormat (c : Contract) : Bool := c.has .format

/-- The contiguity that the caller asks for by name (`Contract.contiguity`).  A contract without
strides relies on row-major order all the same, see `requiresRowMajor`. -/
def contiguity (c : Contract) : Contiguity :=
  if c.has .rowMajor then .rowMajor
  else if c.has .columnMajor then .columnMajor
  else if c.has .anyOrder then .either
  else .unspecified

/-- The shape metadata that the caller asks for (`shape_metadata`). -/
def metadata (c : Contract) : Metadata :=
  if c.has .suboffsets then .indirect
  else if c.has .strides then .strides
  else if c.has .extents then .extents
  else .flat

/-- Whether the caller will take row-major order for granted (`requires_c_layout`): it asks for it,
or it does not ask for strides. -/
def requiresRowMajor (c : Contract) : Bool := !c.has .strides || c.has .rowMajor

/-- A request that cannot be met because it contradicts itself. -/
inductive Flaw where
  /-- A bit is set that stands for no flag. -/
  | unknownBits
  /-- Strides are asked for, the extents they belong to are not. -/
  | stridesWithoutExtents
  /-- Suboffsets are asked for, strides are not. -/
  | suboffsetsWithoutStrides
  /-- An order is asked for, strides are not. -/
  | contiguityWithoutStrides
  /-- Two orders are asked for at once. -/
  | severalOrders
deriving DecidableEq

/-- The wording of a flaw. -/
def Flaw.text : Flaw → String
  | unknownBits => "unknown flag bits are set"
  | stridesWithoutExtents => "strides requested without extents"
  | suboffsetsWithoutStrides => "suboffsets requested without strides"
  | contiguityWithoutStrides => "contiguity requested without strides"
  | severalOrders => "more than one contiguity order requested"

/-- The bits that stand for no flag. -/
def unknownBits (c : Contract) : BitVec 32 := c.bits &&& ~~~(ofFlags Flag.all).bits

/-- The first flaw of a contract (`Contract.validate`). -/
def flaw? (c : Contract) : Option Flaw :=
  if c.unknownBits ≠ 0 then some .unknownBits
  else if c.has .strides && !c.has .extents then some .stridesWithoutExtents
  else if c.has .suboffsets && !c.has .strides then some .suboffsetsWithoutStrides
  else if Flag.orders.any c.has && !c.has .strides then some .contiguityWithoutStrides
  else if 1 < Flag.orders.countP c.has then some .severalOrders
  else none

/-! ### Contracts with a name -/

/-- Reading, without metadata. -/
def simple : Contract := ofFlags []

/-- Reading, with extents and strides. -/
def stridedReadOnly : Contract := ofFlags [.strides, .extents]

/-- The contracts that have a name. -/
def named : List (String × Contract) :=
  [("SIMPLE", simple),
   ("WRITABLE", ofFlags [.writable]),
   ("FORMAT", ofFlags [.format]),
   ("ND", ofFlags [.extents]),
   ("STRIDES", ofFlags [.strides, .extents]),
   ("C_CONTIGUOUS", ofFlags [.rowMajor, .strides, .extents]),
   ("F_CONTIGUOUS", ofFlags [.columnMajor, .strides, .extents]),
   ("ANY_CONTIGUOUS", ofFlags [.anyOrder, .strides, .extents]),
   ("INDIRECT", ofFlags [.suboffsets, .strides, .extents]),
   ("CONTIG", ofFlags [.extents, .writable]),
   ("CONTIG_RO", ofFlags [.extents]),
   ("STRIDED", ofFlags [.strides, .extents, .writable]),
   ("STRIDED_RO", stridedReadOnly),
   ("RECORDS", ofFlags [.strides, .extents, .writable, .format]),
   ("RECORDS_RO", ofFlags [.strides, .extents, .format]),
   ("FULL", ofFlags [.suboffsets, .strides, .extents, .writable, .format]),
   ("FULL_RO", ofFlags [.suboffsets, .strides, .extents, .format])]

/-- The contract of a name. -/
def named? (name : String) : Option Contract := named.lookup name

end Contract
end MemoryLease
