/-!
# Sets of characters

A property of characters that no formula describes is kept as a table of ranges of code points, each
with its first and its last one.  In an ordered table the ranges ascend and leave room between them,
so a search can stop at the first range that starts after the code point (`contains`).
-/

namespace MemoryLease
namespace Text

/-- Ranges of code points, by their first and last. -/
abbrev CodeRanges := List (Nat × Nat)

namespace CodeRanges

/-- Whether a code point lies in a range, for ranges that ascend. -/
def contains : CodeRanges → Nat → Bool
  | [], _ => false
  | (first, last) :: rest, n => if n < first then false else n ≤ last || contains rest n

/-- The ranges ascend, and there is room between any two. -/
def ordered : CodeRanges → Bool
  | [] => true
  | [r] => r.1 ≤ r.2
  | r :: s :: rest => r.1 ≤ r.2 && r.2 + 1 < s.1 && ordered (s :: rest)

/-- The number of code points. -/
def count : CodeRanges → Nat
  | [] => 0
  | (first, last) :: rest => last + 1 - first + count rest

end CodeRanges
end Text
end MemoryLease
