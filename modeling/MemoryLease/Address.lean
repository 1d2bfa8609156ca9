import MemoryLease.Text.Hex

/-!
# Addresses

The address of memory that this library does not own is a number that somebody states.  The address
of a heap block is known to its allocator alone: it is named here by the memory that owns the block
and by how often that memory has moved, and `@` stands for its digits in text.
-/

namespace MemoryLease

/-- Where a region of memory starts. -/
inductive Address where
  /-- A number that is known. -/
  | fixed (value : Nat)
  /-- The heap block that a memory got after a number of moves. -/
  | heap (memory : Nat) (moves : Nat)
deriving DecidableEq

namespace Address

/-- An address in decimal. -/
def decimal : Address → String
  | fixed value => toString value
  | heap _ _ => "@"

/-- An address in hexadecimal. -/
def hex : Address → String
  | fixed value => Text.hex 1 value
  | heap _ _ => "0x@"

end Address
end MemoryLease
