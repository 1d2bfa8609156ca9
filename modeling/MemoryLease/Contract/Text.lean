import MemoryLease.Contract.Basic
import MemoryLease.Text.Hex
import MemoryLease.Text.Record

/-!
# Contracts as text

A contract is written as its number, with at least three hexadecimal digits, and its axes.
-/

namespace MemoryLease
namespace Contract

/-- The number of a contract. -/
def bitsText (c : Contract) : String := Text.hex 3 c.bits.toNat

/-- A contract in running text (`Display`). -/
def text (c : Contract) : String :=
  c.bitsText ++ " (" ++ (if c.isWritable then "read-write" else "read-only") ++
    ", contiguity: " ++ c.contiguity.text ++ ", shape: " ++ c.metadata.text ++ ")"

/-- A contract as a record (`Debug`). -/
def record (c : Contract) : String :=
  Text.record "Contract"
    [("bits", c.bitsText),
     ("writable", Text.truth c.isWritable),
     ("contiguity", c.contiguity.name),
     ("shape_metadata", c.metadata.name),
     ("format", Text.truth c.wantsFormat)]

end Contract
end MemoryLease
