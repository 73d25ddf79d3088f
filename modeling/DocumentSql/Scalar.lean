import DocumentSql.Error

/-!
# Scalars

The values that can stand in a statement: nothing, a number or a text. A text is written as a
quoted string, a number as it stands in a document.
-/

set_option autoImplicit false

namespace DocumentSql

/-- A value of a column. -/
inductive Scalar where
  | null
  | number (n : JsonNumber)
  | string (s : String)
deriving DecidableEq

namespace Scalar

/-- The scalar a document's value stands for. Truth values, arrays and objects stand for
none. -/
def ofJson : Json → Except SchemaFault Scalar
  | .null => .ok .null
  | .number n => .ok (.number n)
  | .string s => .ok (.string s)
  | .bool b => .error (.booleanValue (.bool b))
  | .array items => .error (.compoundValue (.array items))
  | .object members => .error (.compoundValue (.object members))

/-- The literal of a scalar. -/
def literal : Scalar → String
  | .null => "NULL"
  | .number n => n.write
  | .string s => Text.quoted s

/-- Nothing, rather than a number or a text. -/
def isNull : Scalar → Bool
  | .null => true
  | _ => false

/-- A document's value stands for a scalar unless it is a truth value, an array or an
object. -/
theorem ofJson_eq_ok_iff (v : Json) :
    (∃ s, ofJson v = .ok s) ↔
      v = .null ∨ (∃ n, v = .number n) ∨ ∃ s, v = .string s := by
  cases v <;> simp [ofJson]

end Scalar

end DocumentSql
