import DocumentSql.Event
import DocumentSql.Search.Schema

/-!
# Planned searches

A search request and the SELECT it becomes. Without a column, the keyword is cut at single
spaces, and every piece has to be found in at least one searchable column. With a column, the
whole keyword has to be found there. An empty keyword matches every row.
-/

set_option autoImplicit false

namespace DocumentSql

/-- What is searched for. -/
structure SearchRequest where
  /-- The words, with spaces between them. The empty keyword matches every row. -/
  keyword : String
  /-- The table. -/
  table : String
  /-- The only column to look at, if one is named. -/
  column : Option String
  /-- At most how many rows are returned. -/
  limit : Option Nat

/-- The table of a request that names none. -/
def SearchRequest.defaultTable : String := "Pet"

/-- The parts of the SELECT of a search. -/
structure SearchPlan where
  /-- The table. -/
  table : String
  /-- Which rows match. -/
  condition : Condition
  /-- The columns that are returned. -/
  columns : List String
  /-- The limit, if there is one. -/
  post : PostProcess

namespace SearchTable

/-- A word is found in a column: it equals the value of an exact column, and stands somewhere
in the value of another. -/
def matchColumn (t : SearchTable) (column word : String) : Condition :=
  if t.isExact column then .compare column .eq (.string word)
  else .compare column .like (.string ("%" ++ word ++ "%"))

/-- A word is found in at least one searchable column. -/
def matchWord (t : SearchTable) (word : String) : Condition :=
  .or (t.searchable.map fun column => t.matchColumn column word)

/-- A keyword is found in a row. -/
def matchKeyword (t : SearchTable) (keyword : String) : Option String → Condition
  | some column => if keyword.isEmpty then .empty else t.matchColumn column keyword
  | none =>
      if keyword.isEmpty then .empty
      else .and ((Text.pieces ' ' keyword).map t.matchWord)

end SearchTable

namespace SearchSchema

/-- A column that a request names has to be searchable. -/
def checkColumn (t : SearchTable) (table : String) : Option String → Except SchemaFault Unit
  | none => .ok ()
  | some column =>
      if t.isSearchable column then .ok () else .error (.columnNotSearchable column table)

/-- The plan of a request. -/
def plan (schema : SearchSchema) (request : SearchRequest) : Except SchemaFault SearchPlan :=
  match schema.get? request.table with
  | none => .error (.unknownSearchTable request.table)
  | some t => do
      checkColumn t request.table request.column
      .ok
        { table := request.table
          condition := t.matchKeyword request.keyword request.column
          columns := t.output
          post := { PostProcess.empty with limit := request.limit } }

end SearchSchema

namespace SearchPlan

/-- The SELECT of a plan. -/
def statement (plan : SearchPlan) : Statement :=
  .select (.plain plan.table) plan.condition plan.columns plan.post

/-- The text of a plan. -/
def sql (plan : SearchPlan) : Except QueryError String := plan.statement.compile

/-- The events of a planned request. -/
def events (plan : SearchPlan) (request : SearchRequest) : List Event :=
  .planned request.table request.keyword request.column :: plan.statement.events

end SearchPlan

end DocumentSql
