import MemoryLease.Text.GraphemeExtender
import MemoryLease.Text.Hex
import MemoryLease.Text.Invisible
import MemoryLease.Text.Unassigned

/-!
# Quoted text

A text in quotes shows each character as itself, save the quote and the backslash, which get a
backslash in front, and every character that could not be told on a page: one without a shape, one
that extends the character before it, and one that no table of characters has.  Those are written by
their code.
-/

namespace MemoryLease
namespace Text

/-- Whether a character shows on a page, by itself. -/
def isPrintable (c : Char) : Bool :=
  !(isInvisible c || isGraphemeExtender c || isUnassigned c)

/-- How one character stands inside quotes.  Line feed, carriage return, tab and the null character
have a letter of their own, any other that does not show is written by its code in braces. -/
def escaped (c : Char) : List Char :=
  if c = '"' then ['\\', '"']
  else if c = '\\' then ['\\', '\\']
  else if c = '\n' then ['\\', 'n']
  else if c = '\r' then ['\\', 'r']
  else if c = '\t' then ['\\', 't']
  else if c = '\x00' then ['\\', '0']
  else if isPrintable c then [c]
  else ['\\', 'u', '\x7b'] ++ hexDigits 1 c.toNat ++ ['\x7d']

/-- A text between quotes. -/
def quoted (s : String) : String :=
  String.ofList ('"' :: s.toList.flatMap escaped ++ ['"'])

example : quoted "<i4" = "\"<i4\"" := by decide +kernel

example : quoted "a\"\\\n" = "\"a\\\"\\\\\\n\"" := by decide +kernel

example : quoted "\uff76\uff9e\uffa0" = "\"\uff76\uff9e\\u\x7bffa0\x7d\"" := by decide +kernel

example : quoted "e\u0301\u00a0" = "\"e\\u\x7b301\x7d\\u\x7ba0\x7d\"" := by decide +kernel

end Text
end MemoryLease
