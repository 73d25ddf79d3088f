import DocumentSql.Json.Basic
import DocumentSql.Number.Layout
import DocumentSql.Text.Pieces
import DocumentSql.Text.Quoted

/-!
# The compact text of a JSON value

No blanks, strings as in `DocumentSql.Text.Quoted`, integers in decimal, and every other number
by its shortest decimal.
-/

set_option autoImplicit false

namespace DocumentSql

/-- Numbers from `10 ^ -5` up to, but not including, `10 ^ 16` are written without an
exponent. -/
def JsonNumber.layout : NumberLayout := ⟨-5, 15⟩

/-- The text of a number. -/
def JsonNumber.write : JsonNumber → String
  | .integer n => toString n
  | .float x => String.ofList (layout.write x)

example : (JsonNumber.float ⟨false, 5629499534213120, -52⟩).write = "1.25" := by decide +kernel

example : (JsonNumber.float ⟨false, 5000000000000000, 1⟩).write = "1e+16" := by decide +kernel

example : (JsonNumber.float (Binary64.zero true)).write = "-0.0" := by decide +kernel

namespace Json

mutual

/-- The compact text of a value. -/
def write : Json → String
  | .null => "null"
  | .bool true => "true"
  | .bool false => "false"
  | .number n => n.write
  | .string s => Text.quoted s
  | .array items => "[" ++ Text.joinWith "," (writeItems items) ++ "]"
  | .object members => "\x7b" ++ Text.joinWith "," (writeMembers members) ++ "\x7d"

/-- The texts of the items of an array. -/
def writeItems : List Json → List String
  | [] => []
  | item :: rest => write item :: writeItems rest

/-- The texts of the members of an object. -/
def writeMembers : List (String × Json) → List String
  | [] => []
  | (key, value) :: rest => (Text.quoted key ++ ":" ++ write value) :: writeMembers rest

end

end Json

end DocumentSql
