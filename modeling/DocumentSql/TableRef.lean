import DocumentSql.Identifier
import DocumentSql.Scalar

/-!
# Tables and joins

What a statement works on: a table, or a join of two such things. A joined table keeps the tree
of joins it was built by. It has no name of its own but the text of its joins, and it can only
be read.
-/

set_option autoImplicit false

namespace DocumentSql

/-- How two tables are joined. -/
inductive JoinCondition where
  /-- On the columns of the same name. -/
  | natural
  /-- On the equality of columns, each given with its table. -/
  | on (pairs : List (String × String))
deriving DecidableEq

namespace JoinCondition

/-- The columns that the members of an object name. -/
def pairsOfMembers : List (String × Json) → Except SchemaFault (List (String × String))
  | [] => .ok []
  | (table, .string column) :: rest => do
      let pairs ← pairsOfMembers rest
      .ok ((table, column) :: pairs)
  | (table, v) :: _ => .error (.joinColumnNotString table v)

/-- The join condition a document describes: the word `natural`, or an object from tables to
columns. -/
def ofJson : Json → Except SchemaFault JoinCondition
  | .string s =>
      if s = "natural" then .ok .natural else .error (.invalidJoin (.string s))
  | .object members => do
      let pairs ← pairsOfMembers members
      .ok (.on pairs)
  | v => .error (.invalidJoin v)

end JoinCondition

/-- A table, or a join of two. -/
inductive TableRef where
  /-- A table by its name. -/
  | plain (name : String)
  /-- A natural join. -/
  | natural (left right : TableRef)
  /-- A join on the equality of two columns, each with the table it belongs to. -/
  | equality (left right : TableRef) (first second : String × String)
deriving DecidableEq

namespace TableRef

/-- The table is a join. -/
def isJoined : TableRef → Bool
  | .plain _ => false
  | _ => true

/-- The text of a table after FROM. -/
def sql : TableRef → String
  | .plain name => Identifier.quote name
  | .natural left right => left.sql ++ " NATURAL JOIN " ++ right.sql
  | .equality left right first second =>
      left.sql ++ " JOIN " ++ right.sql ++ " ON " ++
        Identifier.quoteQualified first.1 first.2 ++ " = " ++
        Identifier.quoteQualified second.1 second.2

/-- The name of a table, or the text of a join. -/
def name : TableRef → String
  | .plain name => name
  | joined => joined.sql

/-- A plain table has to be named by one of two entries; a joined one need not be. -/
def namedBy (first second : String) : TableRef → Bool
  | .plain name => name = first || name = second
  | _ => true

/-- The join of two tables on the equality of columns. -/
def joinOn (left right : TableRef) :
    List (String × String) → Except SchemaFault TableRef
  | [first, second] =>
      if first.1 = second.1 then .error (.joinSameTable first.1)
      else if left.namedBy first.1 second.1 = false then
        .error (.joinSideNotNamed first.1 second.1 left.name)
      else if right.namedBy first.1 second.1 = false then
        .error (.joinSideNotNamed first.1 second.1 right.name)
      else .ok (.equality left right first second)
  | pairs => .error (.joinNotTwoEntries pairs.length)

/-- The join of two tables. -/
def join (left right : TableRef) : JoinCondition → Except SchemaFault TableRef
  | .natural => .ok (.natural left right)
  | .on pairs => left.joinOn right pairs

/-- The join of two plain tables on the equality of a column of each. -/
def equalityJoin (left right : TableRef) (leftKey rightKey : String) :
    Except SchemaFault TableRef :=
  if left.isJoined || right.isJoined then .error .equalityJoinOfJoined
  else left.join right (.on [(left.name, leftKey), (right.name, rightKey)])

end TableRef

end DocumentSql
