/-!
# Hexadecimal text

Addresses and contract bits are written in lower-case hexadecimal after `0x`.
-/

namespace MemoryLease
namespace Text

/-- The lower-case hexadecimal digits of a number, filled up with zeros to at least `places`
digits. -/
def hexDigits (places n : Nat) : List Char :=
  let digits := Nat.toDigits 16 n
  List.replicate (places - digits.length) '0' ++ digits

/-- A number as `0x` and at least `places` hexadecimal digits. -/
def hex (places n : Nat) : String :=
  "0x" ++ String.ofList (hexDigits places n)

end Text
end MemoryLease
