import DocumentSql.Statement.Kind
import DocumentSql.Text.Spelled

/-!
# Events

What is reported while statements are built and run. Each kind of event has a level, a target
and named texts, the first of which is its message.
-/

set_option autoImplicit false

namespace DocumentSql

/-- Something worth reporting. -/
inductive Event where
  /-- A statement was built. -/
  | built (kind : StatementKind) (sql : String)
  /-- A search was planned. -/
  | planned (table keyword : String) (column : Option String)
  /-- No schema file was found. -/
  | builtinSchema
  /-- A statement is sent to the server. -/
  | executing (sql : String)
  /-- The server returned rows. -/
  | finished (rows : Nat)
  /-- A watched statement failed. -/
  | failed (kind : StatementKind) (elapsed : Duration) (error sql : String)
  /-- A watched statement returned rows, but took long. -/
  | slow (kind : StatementKind) (elapsed : Duration) (rows : Nat) (sql : String)
  /-- A watched statement returned rows. -/
  | executed (kind : StatementKind) (elapsed : Duration) (rows : Nat) (sql : String)

/-- How important an event is. -/
inductive Level where
  | trace
  | debug
  | warn

namespace Event

/-- The importance of an event. -/
def level : Event → Level
  | .finished _ => .trace
  | .failed .. | .slow .. => .warn
  | _ => .debug

/-- The part of the program that reports the event. -/
def target : Event → String
  | .built .. => "condsql.sql"
  | .planned .. => "condsql.search"
  | .builtinSchema => "condsql_cli::commands"
  | .executing _ | .finished _ => "condsql.exec"
  | .failed .. | .slow .. | .executed .. => "condsql.monitor"

/-- The message of an event. -/
def message : Event → String
  | .built .. => "built statement"
  | .planned .. => "planned search"
  | .builtinSchema => "no condsql.toml found, using the built-in search schema"
  | .executing _ => "executing SQL"
  | .finished _ => "statement finished"
  | .failed .. => "statement failed"
  | .slow .. => "slow statement"
  | .executed .. => "statement executed"

/-- A column that may be absent, as a text. -/
def columnText : Option String → String
  | none => "None"
  | some column => "Some(" ++ Text.spelled column ++ ")"

/-- The named texts of an event beside its message. -/
def details : Event → List (String × String)
  | .built kind sql => [("kind", kind.name), ("sql", sql)]
  | .planned table keyword column =>
      [("table", table), ("keyword", keyword), ("column", columnText column)]
  | .builtinSchema => []
  | .executing sql => [("sql", sql)]
  | .finished rows => [("rows", toString rows)]
  | .failed kind elapsed error sql =>
      [("kind", kind.name), ("elapsed", elapsed.text), ("error", error), ("sql", sql)]
  | .slow kind elapsed rows sql | .executed kind elapsed rows sql =>
      [("kind", kind.name), ("elapsed", elapsed.text), ("rows", toString rows), ("sql", sql)]

/-- All named texts of an event. -/
def fields (event : Event) : List (String × String) :=
  ("message", event.message) :: event.details

end Event

/-- The event of a statement that could be built, and none of another. -/
def Statement.events (statement : Statement) : List Event :=
  match statement.compile with
  | .ok sql => [.built statement.kind sql]
  | .error _ => []

end DocumentSql
