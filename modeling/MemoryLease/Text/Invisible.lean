import MemoryLease.Text.CodeRanges

/-!
# Characters without a shape

Control characters, format characters, separators other than the blank, and letters that stand for
an empty place leave nothing on a page that a reader could see.  The tables are those of version 17
of the Unicode standard.
-/

namespace MemoryLease
namespace Text

/-- The control characters. -/
def controls : CodeRanges := [(0x0000, 0x001F), (0x007F, 0x009F)]

/-- The separators of words, lines and paragraphs, without the blank. -/
def separators : CodeRanges :=
  [(0x00A0, 0x00A0), (0x1680, 0x1680), (0x2000, 0x200A), (0x2028, 0x2029), (0x202F, 0x202F),
   (0x205F, 0x205F), (0x3000, 0x3000)]

/-- The characters that steer the layout of those around them. -/
def formatters : CodeRanges :=
  [(0x00AD, 0x00AD), (0x0600, 0x0605), (0x061C, 0x061C), (0x06DD, 0x06DD), (0x070F, 0x070F),
   (0x0890, 0x0891), (0x08E2, 0x08E2), (0x180E, 0x180E), (0x200B, 0x200F), (0x202A, 0x202E),
   (0x2060, 0x2064), (0x2066, 0x206F), (0xFEFF, 0xFEFF), (0xFFF9, 0xFFFB), (0x110BD, 0x110BD),
   (0x110CD, 0x110CD), (0x13430, 0x1343F), (0x1BCA0, 0x1BCA3), (0x1D173, 0x1D17A),
   (0xE0001, 0xE0001), (0xE0020, 0xE007F)]

/-- The letters that stand for an empty place. -/
def fillers : CodeRanges :=
  [(0x115F, 0x1160), (0x3164, 0x3164), (0xFFA0, 0xFFA0)]

example : controls.ordered = true ∧ controls.count = 65 := by decide

example : separators.ordered = true ∧ separators.count = 18 := by decide

example : formatters.ordered = true ∧ formatters.count = 170 := by decide

example : fillers.ordered = true ∧ fillers.count = 4 := by decide

/-- Whether a character leaves nothing to see. -/
def isInvisible (c : Char) : Bool :=
  controls.contains c.toNat || separators.contains c.toNat || formatters.contains c.toNat ||
    fillers.contains c.toNat

end Text
end MemoryLease
