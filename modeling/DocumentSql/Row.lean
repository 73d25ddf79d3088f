import DocumentSql.Entries
import DocumentSql.Scalar

/-!
# Rows and records

A row gives values to columns, each column once and in the order in which it first came. A
record is what the server returns: cells in the order of the projection, where a column may
come twice.
-/

set_option autoImplicit false

namespace DocumentSql

/-- The values given to columns, in order. -/
structure Row where
  /-- The columns with their values. -/
  entries : List (String × Scalar)

namespace Row

/-- The row without columns. -/
def empty : Row := ⟨[]⟩

/-- The row with `value` for `column`: in place of its old value, or at the end. -/
def insert (row : Row) (column : String) (value : Scalar) : Row :=
  ⟨Entries.put column value row.entries⟩

/-- The row of a list of columns with their values. -/
def ofList (cells : List (String × Scalar)) : Row :=
  cells.foldl (fun row cell => row.insert cell.1 cell.2) empty

/-- The value of a column. -/
def get? (row : Row) (column : String) : Option Scalar := Entries.get? column row.entries

/-- The columns in order. -/
def columns (row : Row) : List String := row.entries.map Prod.fst

/-- The values in order. -/
def values (row : Row) : List Scalar := row.entries.map Prod.snd

/-- The number of columns. -/
def size (row : Row) : Nat := row.entries.length

/-- The row has no columns. -/
def isEmpty (row : Row) : Bool := row.entries.isEmpty

/-- The row with the members of an object put in. -/
def insertMembers : Row → List (String × Json) → Except SchemaFault Row
  | row, [] => .ok row
  | row, (column, value) :: rest => do
      let value ← Scalar.ofJson value
      insertMembers (row.insert column value) rest

/-- The row an object stands for: each of its members is a column with a scalar. -/
def ofJson : Json → Except SchemaFault Row
  | .object members => insertMembers empty members
  | v => .error (.rowNotObject v)

end Row

/-- A value that the server returns. -/
inductive Value where
  | null
  | number (n : JsonNumber)
  | text (s : String)
  | bytes (content : List UInt8)

/-- A scalar as a returned value. -/
def Value.ofScalar : Scalar → Value
  | .null => .null
  | .number n => .number n
  | .string s => .text s

/-- A row of a result. -/
structure Record where
  /-- The columns with their values. -/
  cells : List (String × Value)

namespace Record

/-- The record without cells. -/
def empty : Record := ⟨[]⟩

/-- The record with one more cell. -/
def push (record : Record) (column : String) (value : Value) : Record :=
  ⟨record.cells ++ [(column, value)]⟩

/-- The value of the first cell of a column. -/
def get? (record : Record) (column : String) : Option Value :=
  Entries.get? column record.cells

/-- The number of cells. -/
def size (record : Record) : Nat := record.cells.length

/-- The record has no cells. -/
def isEmpty (record : Record) : Bool := record.cells.isEmpty

end Record

end DocumentSql
