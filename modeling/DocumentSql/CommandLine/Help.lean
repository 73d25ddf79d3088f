import DocumentSql.CommandLine.Command

/-!
# Help

The help texts of the program and its commands.
-/

set_option autoImplicit false

namespace DocumentSql.CommandLine

/-- The lines of a help text. -/
def Topic.helpLines : Topic → List String
  | .program =>
      [ "condsql - compile document-style conditions into MySQL statements"
      , ""
      , "USAGE:"
      , "  condsql <COMMAND> [OPTIONS]"
      , ""
      , "COMMANDS:"
      , "  select        Build a SELECT"
      , "  insert        Build an INSERT"
      , "  update        Build an UPDATE"
      , "  delete        Build a DELETE"
      , "  search        Build a keyword search SELECT"
      , ""
      , "The SQL is printed to stdout. Set RUST_LOG=condsql=debug to trace building."
      , "Run `condsql <command> --help` for more." ]
  | .select =>
      [ "USAGE:"
      , "  condsql select --table <NAME> [OPTIONS]"
      , ""
      , "OPTIONS:"
      , "  --table <NAME>        Table to read"
      , "  --join <TABLE>        Join another table (repeatable, needs --on or --natural)"
      , "  --on <JSON>           Join columns, e.g. '\x7b\"Pet\": \"breed_name\", \"Breed\": \"name\"\x7d'"
      , "  --natural             Natural join on same-named columns"
      , "  --where <JSON>        Condition, e.g. '\x7b\"$or\": [\x7b\"a\": 1\x7d, \x7b\"b\": \x7b\"$gt\": 2\x7d\x7d]\x7d'"
      , "  --columns <a,b>       Columns to return (default: *)"
      , "  --post <JSON>         Post-processing, e.g. '\x7b\"$sort\": \x7b\"a\": -1\x7d, \"$limit\": 10\x7d'"
      , "  -h, --help            Print help" ]
  | .insert =>
      [ "USAGE:"
      , "  condsql insert --table <NAME> --row <JSON>"
      , ""
      , "OPTIONS:"
      , "  --table <NAME>        Table to insert into"
      , "  --row <JSON>          Column values, e.g. '\x7b\"name\": \"Rex\", \"height\": 40\x7d'"
      , "  -h, --help            Print help"
      , ""
      , "Joined tables (--join) are read-only and are refused." ]
  | .update =>
      [ "USAGE:"
      , "  condsql update --table <NAME> --set <JSON> [--where <JSON>]"
      , ""
      , "OPTIONS:"
      , "  --table <NAME>        Table to update"
      , "  --set <JSON>          Column values to assign"
      , "  --where <JSON>        Rows to update (default: all)"
      , "  -h, --help            Print help"
      , ""
      , "Joined tables (--join) are read-only and are refused." ]
  | .delete =>
      [ "USAGE:"
      , "  condsql delete --table <NAME> [--where <JSON>]"
      , ""
      , "OPTIONS:"
      , "  --table <NAME>        Table to delete from"
      , "  --where <JSON>        Rows to delete (default: all)"
      , "  -h, --help            Print help"
      , ""
      , "Joined tables (--join) are read-only and are refused." ]
  | .search =>
      [ "USAGE:"
      , "  condsql search [OPTIONS]"
      , ""
      , "OPTIONS:"
      , "  --keyword <WORDS>     Space-separated words (default: match every row)"
      , "  --table <NAME>        Table to search (default: Pet)"
      , "  --column <NAME>       Only match this searchable column"
      , "  --limit <N>           Maximum number of rows"
      , "  --schema <FILE>       Search schema (default: condsql.toml, else built-in)"
      , "  -h, --help            Print help" ]

/-- A help text. -/
def Topic.help (topic : Topic) : String := Text.joinWith "\n" topic.helpLines

end DocumentSql.CommandLine
