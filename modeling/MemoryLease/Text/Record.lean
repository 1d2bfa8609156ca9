/-!
# Records, lists and optional values as text

A record is written `Name { field: value, .. }`, a list `[1, 2]`, an optional value `Some(value)`
or `None`.
-/

namespace MemoryLease
namespace Text

/-- The members of a list in brackets, with a comma and a blank between two of them. -/
def listed (members : List String) : String :=
  "[" ++ String.intercalate ", " members ++ "]"

/-- A list of extents. -/
def extents (shape : List Nat) : String :=
  listed (shape.map toString)

/-- A list of byte strides or suboffsets. -/
def offsets (strides : List Int) : String :=
  listed (strides.map toString)

/-- A value that may be absent. -/
def optional : Option String → String
  | none => "None"
  | some value => "Some(" ++ value ++ ")"

/-- A truth value. -/
def truth : Bool → String
  | true => "true"
  | false => "false"

private def field (entry : String × String) : String :=
  entry.1 ++ ": " ++ entry.2

/-- A record with all its fields. -/
def record (name : String) (fields : List (String × String)) : String :=
  name ++ " \x7b " ++ String.intercalate ", " (fields.map field) ++ " \x7d"

/-- A record that shows some of its fields: two dots stand for those it leaves out. -/
def openRecord (name : String) (fields : List (String × String)) : String :=
  name ++ " \x7b " ++ String.intercalate ", " (fields.map field ++ [".."]) ++ " \x7d"

end Text
end MemoryLease
