import DocumentSql.Statement.Basic
import DocumentSql.Text.Blank

/-!
# Kinds of statements

The kind of a statement's text is told by its leading keyword, after blanks and opening
parentheses.
-/

set_option autoImplicit false

namespace DocumentSql

/-- What a statement does. -/
inductive StatementKind where
  | select
  | insert
  | update
  | delete
  | other
deriving DecidableEq

namespace StatementKind

/-- The name of a kind. -/
def name : StatementKind → String
  | .select => "select"
  | .insert => "insert"
  | .update => "update"
  | .delete => "delete"
  | .other => "other"

/-- A letter of ASCII. -/
def isLetter (c : Char) : Bool := c.isUpper || c.isLower

/-- What may stand before the keyword. -/
def isLead (c : Char) : Bool := Text.isBlank c || c = '('

/-- The leading keyword of a text, in upper case. -/
def keyword (sql : List Char) : List Char :=
  ((sql.dropWhile isLead).takeWhile isLetter).map Char.toUpper

/-- The kind with the given keyword. -/
def ofKeyword (word : List Char) : StatementKind :=
  if word = "SELECT".toList then .select
  else if word = "INSERT".toList then .insert
  else if word = "UPDATE".toList then .update
  else if word = "DELETE".toList then .delete
  else .other

/-- The kind of a text. -/
def ofSql (sql : String) : StatementKind := ofKeyword (keyword sql.toList)

end StatementKind

/-- The kind of a statement. -/
def Statement.kind : Statement → StatementKind
  | .insert .. => .insert
  | .select .. => .select
  | .update .. => .update
  | .delete .. => .delete

end DocumentSql
