import DocumentSql.Entries

/-!
# TOML tables

The values of a TOML document, as far as search schemas need them: strings, arrays and tables
in full, and of every other scalar only that it stands there.

A table remembers how it came into being, since that decides what may still be added to it:
a table of a header may be given once, one that a longer header implied may get a header of
its own, one of a dotted key may be extended by dotted keys, and an inline table is complete.
An array of tables grows by headers, and what leads through it leads through its last table.
-/

set_option autoImplicit false

namespace DocumentSql

/-- How a table came into being. -/
inductive Toml.Origin where
  /-- By a header, or as the document itself. -/
  | header
  /-- By the header of a table inside it. -/
  | implied
  /-- By a dotted key. -/
  | dotted
  /-- Between braces. -/
  | inlined
deriving DecidableEq

/-- A value of a document. -/
inductive Toml where
  | string (s : String)
  /-- A number, a truth value or a date. -/
  | scalar
  | array (items : List Toml)
  | table (origin : Toml.Origin) (entries : List (String × Toml))
  /-- The tables of headers in double brackets. -/
  | tables (members : List (List (String × Toml)))

namespace Toml

/-- The entries of a table under construction. -/
abbrev Entries := List (String × Toml)

/-- A path leads through a table: a dotted key only through tables that have no header and no
braces, a header through all but inline tables. -/
def Origin.admits (viaDottedKey : Bool) : Origin → Bool
  | .header => !viaDottedKey
  | .implied => true
  | .dotted => true
  | .inlined => false

/-- A change at the end of a path, where missing tables are made on the way. -/
def changeAt (viaDottedKey : Bool) (change : Origin → Entries → Option (Origin × Entries)) :
    List String → Origin → Entries → Option (Origin × Entries)
  | [], origin, entries => change origin entries
  | key :: path, origin, entries =>
      match Entries.get? key entries with
      | none => do
          let made := if viaDottedKey then .dotted else .implied
          let (o, inner) ← changeAt viaDottedKey change path made []
          some (origin, Entries.put key (.table o inner) entries)
      | some (.table o inner) =>
          if o.admits viaDottedKey then do
            let (o, inner) ← changeAt viaDottedKey change path o inner
            some (origin, Entries.put key (.table o inner) entries)
          else none
      | some (.tables members) => do
          let (_, inner) ← changeAt viaDottedKey change path .header (← members.getLast?)
          some (origin, Entries.put key (.tables (members.dropLast ++ [inner])) entries)
      | some _ => none

/-- A new key in a table. A table of a dotted key takes only dotted keys, and another only
plain ones; no key is given twice. -/
def addKey (isDotted : Bool) (key : String) (value : Toml) (origin : Origin)
    (entries : Entries) : Option (Origin × Entries) :=
  if decide (origin = .dotted) ≠ isDotted then none
  else if (Entries.get? key entries).isSome then none
  else some (origin, Entries.put key value entries)

/-- A value at a dotted key. -/
def addPair (path : List String) (key : String) (value : Toml) (origin : Origin)
    (entries : Entries) : Option (Origin × Entries) :=
  changeAt true (addKey (!path.isEmpty) key value) path origin entries

/-- A table with a header: a new one, or one that was implied so far. -/
def openTable (key : String) (origin : Origin) (entries : Entries) :
    Option (Origin × Entries) :=
  match Entries.get? key entries with
  | none => some (origin, Entries.put key (.table .header []) entries)
  | some (.table .implied inner) =>
      some (origin, Entries.put key (.table .header inner) entries)
  | some _ => none

/-- One more table in an array of tables, which may be its first. -/
def appendTable (key : String) (origin : Origin) (entries : Entries) :
    Option (Origin × Entries) :=
  match Entries.get? key entries with
  | none => some (origin, Entries.put key (.tables [[]]) entries)
  | some (.tables members) =>
      some (origin, Entries.put key (.tables (members ++ [[]])) entries)
  | some _ => none

end Toml

end DocumentSql
