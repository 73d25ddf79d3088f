import DocumentSql.Search.Schema
import DocumentSql.Toml.Reader

/-!
# Search schemas in TOML

A schema file has a table `tables`, and in it a table for each table that can be searched,
with the lists `searchable`, `output` and `exact`. Only the first is required, and nothing else
may stand there. Instead of such a table there may be an array of the three lists in this
order; what follows them in the array is passed over.
-/

set_option autoImplicit false

namespace DocumentSql

namespace SearchTable

/-- The strings of an array of strings. -/
def stringsOf : List Toml → Option (List String)
  | [] => some []
  | .string s :: rest => (stringsOf rest).map (s :: ·)
  | _ :: _ => none

/-- The list of columns that a value gives. -/
def columnsOf : Toml → Option (List String)
  | .array items => stringsOf items
  | _ => none

/-- The list of columns under a key, if there is one. -/
def columnsUnder (key : String) (entries : Toml.Entries) : Option (Option (List String)) :=
  match Entries.get? key entries with
  | none => some none
  | some v => (columnsOf v).map some

/-- The keys of a searched table. -/
def keys : List String := ["searchable", "output", "exact"]

/-- The searched table that entries describe. -/
def ofEntries (entries : Toml.Entries) : Option SearchTable := do
  if entries.any fun entry => !keys.contains entry.1 then none
  else
    let searchable ← (← columnsUnder "searchable" entries)
    let output ← columnsUnder "output" entries
    let exactColumns ← columnsUnder "exact" entries
    some ⟨searchable, output.getD [], exactColumns.getD []⟩

/-- The list of columns at the front of an array, if the array goes on so far. -/
def columnsAt : List Toml → Option (List String)
  | [] => some []
  | v :: _ => columnsOf v

/-- The searched table that an array describes. -/
def ofItems : List Toml → Option SearchTable
  | [] => none
  | first :: rest => do
      let searchable ← columnsOf first
      let output ← columnsAt rest
      let exactColumns ← columnsAt (rest.drop 1)
      some ⟨searchable, output, exactColumns⟩

/-- The searched table that a value describes. -/
def ofToml : Toml → Option SearchTable
  | .table _ entries => ofEntries entries
  | .array items => ofItems items
  | _ => none

end SearchTable

namespace SearchSchema

/-- A schema with the searched tables that entries describe. -/
def addEntries : SearchSchema → Toml.Entries → Option SearchSchema
  | schema, [] => some schema
  | schema, (name, v) :: rest => do
      let table ← SearchTable.ofToml v
      addEntries (schema.insert name table) rest

/-- The schema that the entries of a document describe. -/
def ofDocument : Toml.Entries → Option SearchSchema
  | [] => some empty
  | [("tables", .table _ entries)] => addEntries empty entries
  | _ => none

/-- The valid schema in a text. -/
def ofToml (text : String) : Except ConfigFault SearchSchema :=
  match Toml.read text with
  | .error .longKey => .error .longKey
  | .error .malformed => .error .malformedSchema
  | .ok entries =>
      match ofDocument entries with
      | none => .error .malformedSchema
      | some schema => do
          schema.validate
          .ok schema

end SearchSchema

end DocumentSql
