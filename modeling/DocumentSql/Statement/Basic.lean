import DocumentSql.Condition.Where
import DocumentSql.PostProcess
import DocumentSql.Row
import DocumentSql.TableRef

/-!
# Statements

The four statements and their text. A write to a joined table is refused before anything else
is looked at. Clauses that are empty leave no trace.
-/

set_option autoImplicit false

namespace DocumentSql

/-- A statement on a table. -/
inductive Statement where
  /-- A new row. -/
  | insert (table : TableRef) (row : Row)
  /-- The rows under a condition: some columns, or all of them when none is listed. -/
  | select (table : TableRef) (condition : Condition) (columns : List String)
      (post : PostProcess)
  /-- New values in the rows under a condition. -/
  | update (table : TableRef) (condition : Condition) (row : Row)
  /-- The removal of the rows under a condition. -/
  | delete (table : TableRef) (condition : Condition)

namespace Statement

/-- The texts that are not empty, with a space between them. -/
def assemble (segments : List String) : String :=
  Text.joinWith " " (segments.filter fun s => !s.isEmpty)

/-- Only a plain table may be written to. -/
def guardWrite (table : TableRef) (verb : String) : Except QueryError Unit :=
  if table.isJoined then .error (.writeGuard (.joinedTable verb table.name)) else .ok ()

/-- The text of an INSERT. -/
def insertSql (table : TableRef) (row : Row) : Except QueryError String := do
  guardWrite table "insert into"
  if row.isEmpty then .error (.schema .insertWithoutColumns)
  else
    .ok ("INSERT INTO " ++ table.sql ++ "(" ++ Identifier.quoteList row.columns ++
      ") VALUES (" ++ Text.joinWith ", " (row.values.map Scalar.literal) ++ ")")

/-- The columns of a SELECT. -/
def projection (columns : List String) : String :=
  if columns.isEmpty then "*" else Identifier.quoteList columns

/-- The text of a SELECT. -/
def selectSql (table : TableRef) (condition : Condition) (columns : List String)
    (post : PostProcess) : Except QueryError String := do
  let whereClause ← QueryError.ofSchema condition.whereClause
  let head := "SELECT " ++ projection columns ++ " FROM " ++ table.sql
  .ok (assemble [head, whereClause, post.sql])

/-- A column with its new value. -/
def assignment (entry : String × Scalar) : String :=
  Identifier.quote entry.1 ++ " = " ++ entry.2.literal

/-- The text of an UPDATE. -/
def updateSql (table : TableRef) (condition : Condition) (row : Row) :
    Except QueryError String := do
  guardWrite table "update"
  if row.isEmpty then .error (.schema .updateWithoutAssignments)
  else do
    let whereClause ← QueryError.ofSchema condition.whereClause
    let head := "UPDATE " ++ table.sql ++ " SET " ++
      Text.joinWith ", " (row.entries.map assignment)
    .ok (assemble [head, whereClause])

/-- The text of a DELETE. -/
def deleteSql (table : TableRef) (condition : Condition) : Except QueryError String := do
  guardWrite table "delete from"
  let whereClause ← QueryError.ofSchema condition.whereClause
  .ok (assemble ["DELETE FROM " ++ table.sql, whereClause])

/-- The text of a statement. -/
def compile : Statement → Except QueryError String
  | .insert table row => insertSql table row
  | .select table condition columns post => selectSql table condition columns post
  | .update table condition row => updateSql table condition row
  | .delete table condition => deleteSql table condition

end Statement

end DocumentSql
