import DocumentSql.Proofs.Statement.Tokens
import Mathlib.Data.List.DropRight

/-!
# How statements are read

What a text of one of the four kinds of statements says to a reader who knows nothing of the
statement it came from. The reader cuts the tokens into clauses at the words that open one, and
reads each clause by itself: lists are cut at commas, joins from left to right.

* `Message.read?`: what a text says.
-/

set_option autoImplicit false

namespace DocumentSql

open Lexical

/-- What a statement says. Of a condition it is the text, if there is one. -/
inductive Message where
  | insert (table : TableRef) (cells : List (String × Literal))
  | select (table : TableRef) (filter : Option String) (columns : List String)
      (post : PostProcess)
  | update (table : TableRef) (filter : Option String) (cells : List (String × Literal))
  | delete (table : TableRef) (filter : Option String)
deriving DecidableEq

namespace Message

/-! ## Clauses -/

/-- The words that open a clause. -/
def clauseWords : List String :=
  ["INSERT", "VALUES", "SELECT", "FROM", "UPDATE", "SET", "DELETE", "WHERE", "ORDER", "LIMIT",
    "OFFSET"]

/-- The word of the clause that a token opens. -/
def opensClause? : Token → Option String
  | .word text => if text ∈ clauseWords then some text else none
  | _ => none

@[simp] theorem opensClause?_blank (c : Char) : opensClause? (.blank c) = none := rfl

@[simp] theorem opensClause?_name (s : String) : opensClause? (.name s) = none := rfl

@[simp] theorem opensClause?_number (s : String) : opensClause? (.number s) = none := rfl

@[simp] theorem opensClause?_sign (s : String) : opensClause? (.sign s) = none := rfl

/-- The tokens without the blanks around them. -/
def trim (ts : List Token) : List Token := (ts.dropWhile Token.isBlank).rdropWhile Token.isBlank

/-- The tokens before the first clause, and the clauses. -/
def cutClauses : List Token → List Token × List Clause
  | [] => ([], [])
  | t :: ts =>
      match opensClause? t with
      | some word => ([], ⟨word, trim (cutClauses ts).1⟩ :: (cutClauses ts).2)
      | none => (t :: (cutClauses ts).1, (cutClauses ts).2)

/-- The body of the first clause if it has the given word, and the clauses that are left. -/
def takeClause (word : String) : List Clause → Option (List Token) × List Clause
  | [] => (none, [])
  | clause :: clauses =>
      if clause.word = word then (some clause.body, clauses) else (none, clause :: clauses)

/-! ## Lists -/

/-- What stands between commas. -/
def readItems {α : Type} (item : List Token → Option α) (ts : List Token) : Option (List α) :=
  (ts.splitOn .comma).mapM item

/-- What stands between commas in parentheses. -/
def readParenthesized {α : Type} (item : List Token → Option α) :
    List Token → Option (List α)
  | .sign "(" :: ts =>
      if ts.getLast? = some .rightParen then readItems item ts.dropLast else none
  | _ => none

def readName : List Token → Option String
  | [.name name] => some name
  | _ => none

def readValue : List Token → Option Literal
  | [t] => Literal.ofToken? t
  | _ => none

/-- A column with its new value. -/
def readAssignment : List Token → Option (String × Literal)
  | [.name column, .sign "=", t] => (Literal.ofToken? t).map fun value => (column, value)
  | _ => none

/-- A column with the direction it is sorted in. -/
def readSortColumn : List Token → Option (String × SortDirection)
  | [.name column, .word "ASC"] => some (column, .ascending)
  | [.name column, .word "DESC"] => some (column, .descending)
  | _ => none

/-! ## Parts of statements -/

/-- The table that `table` and the joins that follow make. -/
def readJoins (table : TableRef) : List Token → Option TableRef
  | [] => some table
  | .word "NATURAL" :: .word "JOIN" :: .name right :: ts =>
      readJoins (.natural table (.plain right)) ts
  | .word "JOIN" :: .name right :: .word "ON" :: .name table₁ :: .sign "." :: .name column₁ ::
        .sign "=" :: .name table₂ :: .sign "." :: .name column₂ :: ts =>
      readJoins (.equality table (.plain right) (table₁, column₁) (table₂, column₂)) ts
  | _ => none

/-- A table, with the tables that are joined to it. -/
def readTable : List Token → Option TableRef
  | .name name :: ts => readJoins (.plain name) ts
  | _ => none

/-- The table and the columns of an INSERT. -/
def readTarget : List Token → Option (TableRef × List String)
  | .word "INTO" :: .name name :: ts =>
      (readParenthesized readName ts).map fun columns => (.plain name, columns)
  | _ => none

/-- The columns of a SELECT; none stand for all. -/
def readProjection (ts : List Token) : Option (List String) :=
  if ts = [.sign "*"] then some [] else readItems readName ts

/-- The sort columns, if there are any. -/
def readOrder : Option (List Token) → Option (List (String × SortDirection))
  | none => some []
  | some (.word "BY" :: ts) => readItems readSortColumn ts
  | some _ => none

/-- A number of rows, if there is one. -/
def readCount : Option (List Token) → Option (Option Nat)
  | none => some none
  | some [.number text] =>
      if text.toList.all Char.isDigit then some (some (Nat.ofDigitChars 10 text.toList 0)) else none
  | some _ => none

/-- The text of a condition, if there is one. -/
def readFilter (body : Option (List Token)) : Option String :=
  body.map fun ts => String.ofList (spell ts)

/-- The directives that clauses give. -/
def readDirectives (clauses : List Clause) : Option PostProcess := do
  let (order, clauses) := takeClause "ORDER" clauses
  let (limit, clauses) := takeClause "LIMIT" clauses
  let (offset, clauses) := takeClause "OFFSET" clauses
  let sort ← readOrder (order.map significant)
  let limit ← readCount (limit.map significant)
  let offset ← readCount (offset.map significant)
  if clauses.isEmpty then some ⟨sort, limit, offset⟩ else none

/-! ## Statements -/

/-- What the clauses of a statement say. -/
def ofClauses : List Clause → Option Message
  | [⟨"INSERT", target⟩, ⟨"VALUES", values⟩] => do
      let (table, columns) ← readTarget (significant target)
      let values ← readParenthesized readValue (significant values)
      -- the columns and the values are paired by their places
      if columns.length = values.length then some (.insert table (columns.zip values)) else none
  | ⟨"SELECT", columns⟩ :: ⟨"FROM", table⟩ :: clauses => do
      let (filter, clauses) := takeClause "WHERE" clauses
      let columns ← readProjection (significant columns)
      let table ← readTable (significant table)
      let post ← readDirectives clauses
      some (.select table (readFilter filter) columns post)
  | ⟨"UPDATE", table⟩ :: ⟨"SET", cells⟩ :: clauses => do
      let (filter, clauses) := takeClause "WHERE" clauses
      let table ← readTable (significant table)
      let cells ← readItems readAssignment (significant cells)
      if clauses.isEmpty then some (.update table (readFilter filter) cells) else none
  | ⟨"DELETE", []⟩ :: ⟨"FROM", table⟩ :: clauses => do
      let (filter, clauses) := takeClause "WHERE" clauses
      let table ← readTable (significant table)
      if clauses.isEmpty then some (.delete table (readFilter filter)) else none
  | _ => none

/-- What a text says, from its first to its last character. -/
def read? (text : String) : Option Message := do
  let ts ← lex text.toList
  match cutClauses ts with
  | ([], clauses) => ofClauses clauses
  | _ => none

end Message

/-! ## What a statement is meant to say -/

namespace TableRef

/-- The joins are made from left to right, each with a plain table. -/
def IsLeftDeep : TableRef → Prop
  | .plain _ => True
  | .natural left right => left.IsLeftDeep ∧ right.isJoined = false
  | .equality left right _ _ => left.IsLeftDeep ∧ right.isJoined = false

end TableRef

/-- The text of a condition, if it has one that is not empty. -/
def Condition.filter (c : Condition) : Option String :=
  match c.body with
  | .ok text => if text = "" then none else some text
  | .error _ => none

/-- The columns of a row with their values, as they can be read. -/
def Row.cells (row : Row) : List (String × Literal) :=
  row.entries.map fun entry => (entry.1, entry.2.written)

namespace Statement

/-- What a statement is meant to say. -/
def message : Statement → Message
  | .insert table row => .insert table row.cells
  | .select table condition columns post => .select table condition.filter columns post
  | .update table condition row => .update table condition.filter row.cells
  | .delete table condition => .delete table condition.filter

/-- The table of a statement. -/
def table : Statement → TableRef
  | .insert table _ => table
  | .select table _ _ _ => table
  | .update table _ _ => table
  | .delete table _ => table

end Statement

end DocumentSql
