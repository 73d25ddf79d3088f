import DocumentSql.Entries
import DocumentSql.Number.Binary64

/-!
# JSON values

The values of a JSON document. The members of an object keep the order in which their keys
first appear, and a number is an integer or a binary floating-point number, never both: the
document's spelling decides, so that `1` and `1.0` are different values.
-/

set_option autoImplicit false

namespace DocumentSql

/-- A number of a document. -/
inductive JsonNumber where
  /-- An integer from `-2 ^ 63` to `2 ^ 64 - 1`. -/
  | integer (n : Int)
  /-- Any other number. -/
  | float (x : Binary64)
deriving DecidableEq

/-- The least integer that is kept exact: `-2 ^ 63`. -/
def JsonNumber.leastInteger : Int := -9223372036854775808

/-- The greatest integer that is kept exact: `2 ^ 64 - 1`. -/
def JsonNumber.greatestInteger : Int := 18446744073709551615

/-- A JSON value. -/
inductive Json where
  | null
  | bool (b : Bool)
  | number (n : JsonNumber)
  | string (s : String)
  | array (items : List Json)
  | object (members : List (String × Json))

end DocumentSql
