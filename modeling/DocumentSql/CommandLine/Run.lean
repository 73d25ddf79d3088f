import DocumentSql.CommandLine.Help
import DocumentSql.Condition.Document
import DocumentSql.Json.Parser
import DocumentSql.Search.Plan
import DocumentSql.Search.SchemaFile

/-!
# Running a command

The statement a command asks for. Documents are read here, in a fixed order, and the first
fault is reported. The only thing a command needs from outside is the text of a schema file.
-/

set_option autoImplicit false

namespace DocumentSql.CommandLine

/-- What the files at paths hold. -/
abbrev Files := String → Except FileFault ByteArray

/-- The text of a file. -/
def readText (files : Files) (path : String) : Except FileFault String := do
  let content ← files path
  match String.fromUTF8? content with
  | some text => .ok text
  | none => .error .notUtf8

/-- Why a command fails. -/
inductive CommandError where
  | arguments (fault : ArgumentFault)
  /-- The value of an option is not a JSON document. -/
  | notJson (flag : Flag) (text : String) (failure : Json.ReadFailure)
  | invalidRow (flag : Flag) (fault : SchemaFault)
  | cannotJoin (table : String) (fault : SchemaFault)
  | query (error : QueryError)

/-- The wording of a document that does not read. -/
def jsonMessage : Json.ReadFailure → String
  | .truncated => "JSON eof"
  | .malformed => "JSON syntax"

/-- The wording of a failure. -/
def CommandError.message : CommandError → String
  | .arguments fault => fault.message
  | .notJson flag text failure =>
      s!"{flag.name} is not valid JSON: {text}: {jsonMessage failure}"
  | .invalidRow flag fault => s!"invalid {flag.name}: {(QueryError.schema fault).message}"
  | .cannotJoin table fault => s!"cannot join {table}: {(QueryError.schema fault).message}"
  | .query error => error.message

/-- What a command prints, and the events on the way. -/
structure Printed where
  /-- The line that is printed. -/
  text : String
  /-- The events. -/
  events : List Event

/-! ## Documents -/

/-- The document in the value of an option. -/
def documentOf (flag : Flag) (text : String) : Except CommandError Json :=
  match Json.read text with
  | .ok v => .ok v
  | .error failure => .error (.notJson flag text failure)

/-- A refusal as a failure of a command. -/
def ofSchema {α : Type} : Except SchemaFault α → Except CommandError α
  | .ok a => .ok a
  | .error fault => .error (.query (.schema fault))

/-- The condition of a command, which places no constraint when it is not given. -/
def conditionOf : Option String → Except CommandError Condition
  | none => .ok .empty
  | some text => do
      let v ← documentOf .condition text
      ofSchema (Condition.ofJson v)

/-- The directives of a command. -/
def postOf : Option String → Except CommandError PostProcess
  | none => .ok PostProcess.empty
  | some text => do
      let v ← documentOf .post text
      ofSchema (PostProcess.ofJson v)

/-- The row in the value of an option. -/
def rowOf (flag : Flag) (text : String) : Except CommandError Row := do
  let v ← documentOf flag text
  match Row.ofJson v with
  | .ok row => .ok row
  | .error fault => .error (.invalidRow flag fault)

/-- How a table is joined. -/
def joinConditionOf : JoinSpec → Except CommandError JoinCondition
  | .natural => .ok .natural
  | .on text => do
      let v ← documentOf .on text
      ofSchema (JoinCondition.ofJson v)

/-- A table with others joined to it, one after the other. -/
def joinAll : TableRef → List (String × JoinSpec) → Except CommandError TableRef
  | table, [] => .ok table
  | table, (name, spec) :: rest => do
      let condition ← joinConditionOf spec
      match table.join (.plain name) condition with
      | .ok joined => joinAll joined rest
      | .error fault => .error (.cannotJoin name fault)

/-- The table of a command. -/
def tableOf (target : Target) : Except CommandError TableRef :=
  joinAll (.plain target.table) target.joins

/-! ## Schemas -/

/-- The schema file that is used when no other is named. -/
def defaultSchemaFile : String := "condsql.toml"

/-- The schema in a file. -/
def loadSchema (files : Files) (path : String) : Except QueryError SearchSchema :=
  match readText files path with
  | .error fault => .error (.config (.unreadableFile path fault))
  | .ok text =>
      match SearchSchema.ofToml text with
      | .error fault => .error (.config (.invalidFile path fault))
      | .ok schema => .ok schema

/-- The schema of a command: of the named file, else of the default file if there is one, else
the one for pet shops. -/
def chooseSchema (files : Files) :
    Option String → Except QueryError (SearchSchema × List Event)
  | some path => do
      let schema ← loadSchema files path
      .ok (schema, [])
  | none =>
      match files defaultSchemaFile with
      | .ok _ => do
          let schema ← loadSchema files defaultSchemaFile
          .ok (schema, [])
      | .error _ => .ok (SearchSchema.petShop, [.builtinSchema])

/-! ## Commands -/

/-- A result as a failure of a command when it fails. -/
def ofQuery {α : Type} : Except QueryError α → Except CommandError α
  | .ok a => .ok a
  | .error error => .error (.query error)

/-- The text of a statement. -/
def printStatement (statement : Statement) : Except CommandError Printed := do
  let sql ← ofQuery statement.compile
  .ok ⟨sql, statement.events⟩

/-- The text of a search. -/
def printSearch (files : Files) (schema : Option String) (request : SearchRequest) :
    Except CommandError Printed := do
  let (schema, events) ← ofQuery (chooseSchema files schema)
  let plan ← ofSchema (schema.plan request)
  let sql ← ofQuery plan.sql
  .ok ⟨sql, events ++ plan.events request⟩

/-- What a command prints. -/
def Command.run (files : Files) : Command → Except CommandError Printed
  | .help topic => .ok ⟨topic.help, []⟩
  | .select target condition columns post => do
      let post ← postOf post
      let table ← tableOf target
      let condition ← conditionOf condition
      printStatement (.select table condition columns post)
  | .insert target row => do
      let table ← tableOf target
      let row ← rowOf .row row
      printStatement (.insert table row)
  | .update target condition assignments => do
      let table ← tableOf target
      let condition ← conditionOf condition
      let row ← rowOf .assignments assignments
      printStatement (.update table condition row)
  | .delete target condition => do
      let table ← tableOf target
      let condition ← conditionOf condition
      printStatement (.delete table condition)
  | .search table keyword column limit schema =>
      printSearch files schema
        { keyword, table := table.getD SearchRequest.defaultTable, column, limit }

/-- What the program prints for its arguments. -/
def run (files : Files) (arguments : List String) : Except CommandError Printed :=
  match readCommand arguments with
  | .error fault => .error (.arguments fault)
  | .ok command => command.run files

end DocumentSql.CommandLine
