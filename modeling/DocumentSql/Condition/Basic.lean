import DocumentSql.Identifier
import DocumentSql.Scalar

/-!
# Conditions

A condition on the rows of a table: comparisons of columns with scalars, combined by
conjunction and disjunction. Several comparisons written side by side are a conjunction of
their own kind, since they do not nest.
-/

set_option autoImplicit false

namespace DocumentSql

/-- How a column is compared with a value. -/
inductive Comparison where
  | eq
  | like
  | ne
  | lt
  | gt
  | lte
  | gte
deriving DecidableEq

namespace Comparison

/-- The operator of a statement. -/
def token : Comparison → String
  | .eq => "="
  | .like => "LIKE"
  | .ne => "!="
  | .lt => "<"
  | .gt => ">"
  | .lte => "<="
  | .gte => ">="

/-- The comparison a key of a document names. Equality has no key. -/
def ofKey? (key : String) : Option Comparison :=
  if key = "$like" then some .like
  else if key = "$ne" then some .ne
  else if key = "$lt" then some .lt
  else if key = "$gt" then some .gt
  else if key = "$lte" then some .lte
  else if key = "$gte" then some .gte
  else none

end Comparison

/-- A comparison of a column with a value. -/
structure Leaf where
  /-- The column. -/
  column : String
  /-- How it is compared. -/
  comparison : Comparison
  /-- What it is compared with. -/
  value : Scalar
deriving DecidableEq

/-- A comparison as it stands in a statement. -/
def Leaf.sql (leaf : Leaf) : String :=
  Identifier.quote leaf.column ++ " " ++ leaf.comparison.token ++ " " ++ leaf.value.literal

/-- How operands are combined. -/
inductive Connective where
  | and
  | or
deriving DecidableEq

namespace Connective

/-- The key of a document. -/
def key : Connective → String
  | .and => "$and"
  | .or => "$or"

/-- The word of a statement. -/
def word : Connective → String
  | .and => "AND"
  | .or => "OR"

/-- The connective a key of a document names. -/
def ofKey? (key : String) : Option Connective :=
  if key = "$and" then some .and
  else if key = "$or" then some .or
  else none

end Connective

/-- A condition on rows. -/
inductive Condition where
  /-- No constraint. -/
  | empty
  /-- Operands combined by a connective. -/
  | group (connective : Connective) (operands : List Condition)
  /-- One comparison. -/
  | leaf (leaf : Leaf)
  /-- The conjunction of comparisons side by side. -/
  | fields (leaves : List Leaf)

namespace Condition

/-- The conjunction of conditions. -/
def and (operands : List Condition) : Condition := .group .and operands

/-- The disjunction of conditions. -/
def or (operands : List Condition) : Condition := .group .or operands

/-- A single comparison. -/
def compare (column : String) (comparison : Comparison) (value : Scalar) : Condition :=
  .leaf ⟨column, comparison, value⟩

/-- Comparisons side by side. None is no constraint, and one stands for itself. -/
def ofLeaves : List Leaf → Condition
  | [] => .empty
  | [l] => .leaf l
  | leaves => .fields leaves

/-- The condition places no constraint, and says so. -/
def isEmpty : Condition → Bool
  | .empty => true
  | _ => false

end Condition

end DocumentSql
