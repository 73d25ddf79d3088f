import DocumentSql.Text.Blank
import DocumentSql.Text.Pieces

/-!
# Options of the command line

The arguments after a command are options. Most of them take a value, which is the next
argument or follows an equals sign in the same one. `readOptions` reads all of them from left to
right and reports the first fault.
-/

set_option autoImplicit false

namespace DocumentSql.CommandLine

/-- The names of options. -/
inductive Flag where
  | table
  | join
  | on
  | natural
  | condition
  | columns
  | post
  | row
  | assignments
  | keyword
  | column
  | limit
  | schema
deriving DecidableEq

namespace Flag

/-- All options, in the order in which help lists them. -/
def all : List Flag :=
  [.table, .join, .on, .natural, .condition, .columns, .post, .row, .assignments, .keyword,
    .column, .limit, .schema]

/-- The name of an option on the command line. -/
def name : Flag → String
  | .table => "--table"
  | .join => "--join"
  | .on => "--on"
  | .natural => "--natural"
  | .condition => "--where"
  | .columns => "--columns"
  | .post => "--post"
  | .row => "--row"
  | .assignments => "--set"
  | .keyword => "--keyword"
  | .column => "--column"
  | .limit => "--limit"
  | .schema => "--schema"

/-- The option of a name. -/
def ofName? (s : String) : Option Flag := all.find? fun flag => flag.name = s

/-- All options but one take a value. -/
def takesValue : Flag → Bool
  | .natural => false
  | _ => true

end Flag

/-! ## Values -/

/-- Why a text is not a count. -/
inductive CountFault where
  | empty
  | invalidDigit
  | tooLarge
deriving DecidableEq

/-- The wording of a text that is not a count. -/
def CountFault.message : CountFault → String
  | .empty => "cannot parse integer from empty string"
  | .invalidDigit => "invalid digit found in string"
  | .tooLarge => "number too large to fit in target type"

/-- The greatest count: `2 ^ 64 - 1`. -/
def greatestCount : Nat := 18446744073709551615

/-- The count of digits, read after `n`; the first digit that does not fit is reported. -/
def readCountFrom : Nat → List Char → Except CountFault Nat
  | n, [] => .ok n
  | n, c :: rest =>
      if c.isDigit then
        let next := n * 10 + (c.toNat - '0'.toNat)
        if next ≤ greatestCount then readCountFrom next rest else .error .tooLarge
      else .error .invalidDigit

/-- The count in a text: digits, with a plus sign allowed in front. -/
def readCount (s : String) : Except CountFault Nat :=
  match s.toList with
  | [] => .error .empty
  | ['+'] => .error .invalidDigit
  | '+' :: digits => readCountFrom 0 digits
  | digits => readCountFrom 0 digits

/-- The columns of a list with commas between them; blanks around a column do not count, and
neither do empty columns. -/
def columnsOf (s : String) : List String :=
  ((Text.pieces ',' s).map Text.trim).filter fun column => !column.isEmpty

/-! ## Accumulated options -/

/-- How a table is joined to those before it. -/
inductive JoinSpec where
  | natural
  /-- By a join condition in JSON. -/
  | on (json : String)
deriving DecidableEq

/-- Why options are refused. -/
inductive OptionFault where
  | missingValue (flag : Flag)
  /-- A join condition before any join. -/
  | conditionWithoutJoin (flag : Flag)
  /-- A second condition for a join. -/
  | secondCondition (flag : Flag) (table : String)
  | invalidLimit (value : String) (fault : CountFault)
  | unknown (argument : String)
deriving DecidableEq

/-- The wording of refused options. -/
def OptionFault.message : OptionFault → String
  | .missingValue flag => s!"{flag.name} requires a value"
  | .conditionWithoutJoin flag => s!"{flag.name} must follow --join <TABLE>"
  | .secondCondition flag table =>
      s!"{flag.name}: --join {table} already has a join condition"
  | .invalidLimit value fault => s!"invalid --limit value: {value}: {fault.message}"
  | .unknown argument => s!"unknown argument: {argument}"

/-- The options read so far. -/
structure Options where
  /-- Help was asked for. -/
  help : Bool
  /-- The options given, in order. -/
  given : List Flag
  table : Option String
  /-- The joined tables in order, each with its condition once that is given. -/
  joins : List (String × Option JoinSpec)
  condition : Option String
  columns : List String
  post : Option String
  row : Option String
  assignments : Option String
  keyword : Option String
  column : Option String
  limit : Option Nat
  schema : Option String

namespace Options

/-- No options. -/
def empty : Options :=
  ⟨false, [], none, [], none, [], none, none, none, none, none, none, none⟩

/-- The joins with a condition for the last of them. -/
def setLastJoin (flag : Flag) (spec : JoinSpec) :
    List (String × Option JoinSpec) → Except OptionFault (List (String × Option JoinSpec))
  | [] => .error (.conditionWithoutJoin flag)
  | [(table, none)] => .ok [(table, some spec)]
  | [(table, some _)] => .error (.secondCondition flag table)
  | join :: rest => do
      let rest ← setLastJoin flag spec rest
      .ok (join :: rest)

/-- The options with the value of one more; an option without a value ignores it. -/
def setValue (o : Options) (flag : Flag) (value : String) : Except OptionFault Options :=
  match flag with
  | .table => .ok { o with table := some value }
  | .join => .ok { o with joins := o.joins ++ [(value, none)] }
  | .on => do
      let joins ← setLastJoin .on (.on value) o.joins
      .ok { o with joins }
  | .natural => do
      let joins ← setLastJoin .natural .natural o.joins
      .ok { o with joins }
  | .condition => .ok { o with condition := some value }
  | .columns => .ok { o with columns := columnsOf value }
  | .post => .ok { o with post := some value }
  | .row => .ok { o with row := some value }
  | .assignments => .ok { o with assignments := some value }
  | .keyword => .ok { o with keyword := some value }
  | .column => .ok { o with column := some value }
  | .limit =>
      match readCount value with
      | .ok n => .ok { o with limit := some n }
      | .error fault => .error (.invalidLimit value fault)
  | .schema => .ok { o with schema := some value }

/-- The options with one more. -/
def add (o : Options) (flag : Flag) (value : String) : Except OptionFault Options := do
  let o ← o.setValue flag value
  .ok { o with given := o.given ++ [flag] }

end Options

/-! ## Reading -/

/-- What an argument at the place of an option is. -/
inductive Token where
  /-- A request for help. -/
  | help
  /-- An option, and the value in the same argument if there is one. -/
  | option (flag : Flag) (value : Option String)
  /-- Something else, without what follows an equals sign. -/
  | unknown (name : String)
deriving DecidableEq

/-- An argument cut at its first equals sign, if two hyphens stand in front of that. -/
def cutArgument (argument : String) : String × Option String :=
  match Text.cutAt '=' argument.toList with
  | some ('-' :: '-' :: name, value) =>
      (String.ofList ('-' :: '-' :: name), some (String.ofList value))
  | _ => (argument, none)

/-- What an argument at the place of an option is. -/
def Token.ofArgument (argument : String) : Token :=
  let (name, value) := cutArgument argument
  if name = "-h" || name = "--help" then .help
  else
    match Flag.ofName? name with
    | some flag => .option flag value
    | none => .unknown name

/-- The options of the arguments, after those read before. -/
def readOptions : Options → List String → Except OptionFault Options
  | o, [] => .ok o
  | o, argument :: rest =>
      match Token.ofArgument argument with
      | .help => readOptions { o with help := true } rest
      | .unknown name => .error (.unknown name)
      | .option flag (some value) => do
          let o ← o.add flag value
          readOptions o rest
      | .option flag none =>
          if flag.takesValue then
            match rest with
            | [] => .error (.missingValue flag)
            | value :: rest => do
                let o ← o.add flag value
                readOptions o rest
          else do
            let o ← o.add flag ""
            readOptions o rest

end DocumentSql.CommandLine
