import DocumentSql.CommandLine.Option

/-!
# Commands

What the arguments of the program ask for. The first argument names a command, the others are
its options. Each command allows some options and requires others.
-/

set_option autoImplicit false

namespace DocumentSql.CommandLine

/-- What help can be asked about: the program or one of its commands. -/
inductive Topic where
  | program
  | select
  | insert
  | update
  | delete
  | search
deriving DecidableEq

namespace Topic

/-- The name of the program or of a command. -/
def name : Topic → String
  | .program => "condsql"
  | .select => "select"
  | .insert => "insert"
  | .update => "update"
  | .delete => "delete"
  | .search => "search"

/-- The command of a name. -/
def ofCommand? (s : String) : Option Topic :=
  [.select, .insert, .update, .delete, .search].find? fun topic : Topic => topic.name = s

/-- The options of a command. -/
def allowed : Topic → List Flag
  | .program => []
  | .select => [.table, .join, .on, .natural, .condition, .columns, .post]
  | .insert => [.table, .join, .on, .natural, .row]
  | .update => [.table, .join, .on, .natural, .condition, .assignments]
  | .delete => [.table, .join, .on, .natural, .condition]
  | .search => [.table, .keyword, .column, .limit, .schema]

end Topic

/-- The table a command works on, and those joined to it. -/
structure Target where
  table : String
  joins : List (String × JoinSpec)
deriving DecidableEq

/-- What the program is asked to do. Documents are still texts. -/
inductive Command where
  | help (topic : Topic)
  | select (target : Target) (condition : Option String) (columns : List String)
      (post : Option String)
  | insert (target : Target) (row : String)
  | update (target : Target) (condition : Option String) (assignments : String)
  | delete (target : Target) (condition : Option String)
  | search (table : Option String) (keyword : String) (column : Option String)
      (limit : Option Nat) (schema : Option String)
deriving DecidableEq

/-- Why arguments are refused. -/
inductive ArgumentFault where
  | unknownCommand (name : String)
  | option (fault : OptionFault)
  | notAllowed (flag : Flag) (topic : Topic)
  | tableRequired
  | joinWithoutCondition (table : String)
  | rowRequired
  | assignmentsRequired
deriving DecidableEq

/-- The wording of refused arguments. -/
def ArgumentFault.message : ArgumentFault → String
  | .unknownCommand name => s!"unknown command: {name}"
  | .option fault => fault.message
  | .notAllowed flag topic => s!"{flag.name} is not valid for `condsql {topic.name}`"
  | .tableRequired => "--table is required"
  | .joinWithoutCondition table => s!"--join {table} needs --on <JSON> or --natural"
  | .rowRequired => "insert requires --row <JSON>"
  | .assignmentsRequired => "update requires --set <JSON>"

namespace Options

/-- The joins, each with its condition. -/
def completeJoins :
    List (String × Option JoinSpec) → Except ArgumentFault (List (String × JoinSpec))
  | [] => .ok []
  | (table, none) :: _ => .error (.joinWithoutCondition table)
  | (table, some spec) :: rest => do
      let joins ← completeJoins rest
      .ok ((table, spec) :: joins)

/-- The table to work on. -/
def target (o : Options) : Except ArgumentFault Target :=
  match o.table with
  | none => .error .tableRequired
  | some table => do
      let joins ← completeJoins o.joins
      .ok ⟨table, joins⟩

/-- The command of a topic with these options. -/
def command (o : Options) : Topic → Except ArgumentFault Command
  | .program => .ok (.help .program)
  | .select => do
      let target ← o.target
      .ok (.select target o.condition o.columns o.post)
  | .insert => do
      let target ← o.target
      match o.row with
      | none => .error .rowRequired
      | some row => .ok (.insert target row)
  | .update => do
      let target ← o.target
      match o.assignments with
      | none => .error .assignmentsRequired
      | some assignments => .ok (.update target o.condition assignments)
  | .delete => do
      let target ← o.target
      .ok (.delete target o.condition)
  | .search => .ok (.search o.table (o.keyword.getD "") o.column o.limit o.schema)

end Options

/-- The options as a fault of the arguments when they are refused. -/
def optionsOf (arguments : List String) : Except ArgumentFault Options :=
  match readOptions Options.empty arguments with
  | .ok o => .ok o
  | .error fault => .error (.option fault)

/-- The command of a topic with the given arguments. Help comes before any other check of the
options. -/
def Topic.command (topic : Topic) (arguments : List String) : Except ArgumentFault Command := do
  let o ← optionsOf arguments
  if o.help then .ok (.help topic)
  else
    match o.given.find? fun flag => !topic.allowed.contains flag with
    | some flag => .error (.notAllowed flag topic)
    | none => o.command topic

/-- The command of the arguments of the program. -/
def readCommand : List String → Except ArgumentFault Command
  | [] => .ok (.help .program)
  | first :: rest =>
      if first = "-h" || first = "--help" then .ok (.help .program)
      else
        match Topic.ofCommand? first with
        | some topic => topic.command rest
        | none => .error (.unknownCommand first)

end DocumentSql.CommandLine
