import DocumentSql.Duration
import DocumentSql.Json.Printer

/-!
# Why a query fails

Five kinds of error: a description that does not fit the schema language, a write to a joined
table, a failure of the server, a timeout, and a configuration that cannot be used. Each kind
has its causes, and the wording of every cause is here. A server may also report an error of
any kind in its own words.
-/

set_option autoImplicit false

namespace DocumentSql

/-- How deep combinators may nest in a condition. -/
def deepestCondition : Nat := 64

/-- Why a description of a query is refused. -/
inductive SchemaFault where
  /-- A truth value where a scalar is needed. -/
  | booleanValue (value : Json)
  /-- An array or an object where a scalar is needed. -/
  | compoundValue (value : Json)
  | rowNotObject (value : Json)
  | notOneOperator (column : String) (value : Json)
  | unknownOperator (key : String)
  | conditionTooDeep
  | conditionNotObject (value : Json)
  /-- A combinator beside other keys. -/
  | combinatorNotAlone
  | combinatorNotArray (key : String)
  | combinatorWithoutOperands (key : String)
  /-- An operand that places no constraint. -/
  | emptyOperand (key : String)
  | invalidDirection (value : Json)
  | directivesNotObject (value : Json)
  | sortNotObject (value : Json)
  | negativeCount (key : String) (n : Int)
  | invalidCount (key : String) (value : Json)
  | unknownDirective (key : String)
  | backwardRange (first last : Nat)
  | joinColumnNotString (table : String) (value : Json)
  | invalidJoin (value : Json)
  | joinNotTwoEntries (count : Nat)
  | joinSameTable (table : String)
  /-- A plain table in a join that neither entry names. -/
  | joinSideNotNamed (first second table : String)
  | equalityJoinOfJoined
  | insertWithoutColumns
  | updateWithoutAssignments
  | unknownSearchTable (table : String)
  | columnNotSearchable (column table : String)
  /-- A fault in the server's words. -/
  | reported (text : String)

/-- The wording of a refusal. -/
def SchemaFault.message : SchemaFault → String
  | .booleanValue v => s!"unsupported boolean value {v.write}"
  | .compoundValue v => s!"non-scalar value {v.write} is not supported"
  | .rowNotObject v => s!"row must be an object, got {v.write}"
  | .notOneOperator column v =>
      s!"invalid condition value for column {column}: expected exactly one operator, " ++
        s!"got {v.write}"
  | .unknownOperator key => s!"invalid operator {key}"
  | .conditionTooDeep => s!"condition nested deeper than {deepestCondition} levels"
  | .conditionNotObject v => s!"condition must be an object, got {v.write}"
  | .combinatorNotAlone =>
      "cannot parse a condition that contains keys other than $and or $or"
  | .combinatorNotArray key => s!"{key} expects an array of conditions"
  | .combinatorWithoutOperands key => s!"{key} requires at least one condition"
  | .emptyOperand key => s!"empty condition inside {key}"
  | .invalidDirection v => s!"invalid sort direction {v.write}, expected 1 or -1"
  | .directivesNotObject v => s!"post-process directives must be an object, got {v.write}"
  | .sortNotObject v => s!"$sort expects an object of column to 1 or -1, got {v.write}"
  | .negativeCount key n => s!"{key} must not be negative, got {n}"
  | .invalidCount key v => s!"{key} must be a non-negative integer, got {v.write}"
  | .unknownDirective key => s!"unknown post-process directive {key}"
  | .backwardRange first last => s!"invalid row range {first}-{last}: end is before start"
  | .joinColumnNotString table v =>
      s!"join column for {table} must be a string, got {v.write}"
  | .invalidJoin v => s!"invalid join condition {v.write}"
  | .joinNotTwoEntries count =>
      s!"equality join requires exactly two table/column entries, got {count}"
  | .joinSameTable table =>
      s!"equality join entries must name two different tables, got {table} twice"
  | .joinSideNotNamed first second table =>
      s!"join keys name {first} and {second} but not the joined table {table}"
  | .equalityJoinOfJoined =>
      "equality_join needs plain tables; use join() with explicit table names"
  | .insertWithoutColumns => "INSERT requires at least one column"
  | .updateWithoutAssignments => "UPDATE requires at least one assignment"
  | .unknownSearchTable table => s!"cannot search in table {table}"
  | .columnNotSearchable column table => s!"invalid column {column} of table {table}"
  | .reported text => text

/-- Why a write is refused. -/
inductive WriteGuardFault where
  /-- A joined table cannot be written to; the verb says what was tried. -/
  | joinedTable (verb table : String)
  /-- A fault in the server's words. -/
  | reported (text : String)

/-- The wording of a refused write. -/
def WriteGuardFault.message : WriteGuardFault → String
  | .joinedTable verb table => s!"cannot {verb} a joined table: {table}"
  | .reported text => text

/-- Why a file cannot be read as text. -/
inductive FileFault where
  | missing
  | isDirectory
  /-- The path goes on after a file. -/
  | notDirectory
  | nameTooLong
  /-- The path holds the character zero. -/
  | zeroInPath
  | notUtf8
deriving DecidableEq

/-- The wording of a file that cannot be read. -/
def FileFault.message : FileFault → String
  | .missing => "No such file or directory (os error 2)"
  | .isDirectory => "Is a directory (os error 21)"
  | .notDirectory => "Not a directory (os error 20)"
  | .nameTooLong => "File name too long (os error 36)"
  | .zeroInPath => "file name contained an unexpected NUL byte"
  | .notUtf8 => "stream did not contain valid UTF-8"

/-- Why a search schema cannot be used. -/
inductive ConfigFault where
  | noTables
  | emptyTableName
  | noSearchableColumns (table : String)
  | emptyColumnName (table : String)
  | exactNotSearchable (column table : String)
  /-- The text is not a TOML document of a search schema. -/
  | malformedSchema
  /-- A key in the text of a search schema has too many parts. -/
  | longKey
  | unreadableFile (path : String) (fault : FileFault)
  | invalidFile (path : String) (fault : ConfigFault)
  /-- A fault in the server's words. -/
  | reported (text : String)

/-- The wording of an unusable search schema. -/
def ConfigFault.message : ConfigFault → String
  | .noTables => "search schema defines no tables"
  | .emptyTableName => "search schema has an empty table name"
  | .noSearchableColumns table => s!"table {table} has no searchable columns"
  | .emptyColumnName table => s!"table {table} has an empty column name \"\""
  | .exactNotSearchable column table =>
      s!"exact-match column {column} of table {table} is not searchable"
  | .malformedSchema => "TOML parse error"
  | .longKey => "recursion limit\n"
  | .unreadableFile path fault => s!"failed to read search schema {path}: {fault.message}"
  | .invalidFile path fault => s!"invalid search schema {path}: {fault.message}"
  | .reported text => text

/-- Why a query fails. -/
inductive QueryError where
  /-- The description of the query is refused. -/
  | schema (fault : SchemaFault)
  /-- The write is refused. -/
  | writeGuard (fault : WriteGuardFault)
  /-- The server could not run the statement. -/
  | execution (text : String)
  /-- The statement took longer than it may. -/
  | timeout (limit : Duration)
  /-- The configuration cannot be used. -/
  | config (fault : ConfigFault)

namespace QueryError

/-- The wording of an error. -/
def message : QueryError → String
  | .schema fault => "Schema violation: " ++ fault.message
  | .writeGuard fault => "Write guard violation: " ++ fault.message
  | .execution text => "Execution error: " ++ text
  | .timeout limit => "Query timeout after " ++ limit.text
  | .config fault => "Config error: " ++ fault.message

/-- The description of the query is at fault. -/
def isSchemaViolation : QueryError → Bool
  | .schema _ => true
  | _ => false

/-- A joined table was to be written to. -/
def isWriteGuard : QueryError → Bool
  | .writeGuard _ => true
  | _ => false

/-- The statement was sent, and failed or took too long. -/
def isExecution : QueryError → Bool
  | .execution _ | .timeout _ => true
  | _ => false

/-- The statement took too long. -/
def isTimeout : QueryError → Bool
  | .timeout _ => true
  | _ => false

/-- A refusal as an error of a query. -/
def ofSchema {α : Type} : Except SchemaFault α → Except QueryError α
  | .ok a => .ok a
  | .error fault => .error (.schema fault)

/-- An unusable configuration as an error of a query. -/
def ofConfig {α : Type} : Except ConfigFault α → Except QueryError α
  | .ok a => .ok a
  | .error fault => .error (.config fault)

end QueryError

end DocumentSql
