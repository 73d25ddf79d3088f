import DocumentSql.Error

/-!
# Search schemas

For each table that can be searched: the columns a keyword is looked for in, the columns that
are returned, and the columns that a keyword has to equal. Tables are kept in the order of
their names.
-/

set_option autoImplicit false

namespace DocumentSql

/-- How one table is searched. -/
structure SearchTable where
  /-- The columns a keyword is looked for in. -/
  searchable : List String
  /-- The columns that are returned; all of them when none is listed. -/
  output : List String
  /-- The searchable columns that a keyword has to equal. -/
  exactColumns : List String
deriving DecidableEq

namespace SearchTable

/-- A keyword is looked for in the column. -/
def isSearchable (t : SearchTable) (column : String) : Bool := t.searchable.contains column

/-- A keyword has to equal the column's value. -/
def isExact (t : SearchTable) (column : String) : Bool := t.exactColumns.contains column

/-- The table can be searched: it has searchable columns, no column has an empty name, and the
exact columns are searchable. -/
def validate (t : SearchTable) (name : String) : Except ConfigFault Unit :=
  if t.searchable.isEmpty then .error (.noSearchableColumns name)
  else if (t.searchable ++ t.output ++ t.exactColumns).any String.isEmpty then
    .error (.emptyColumnName name)
  else
    match t.exactColumns.find? fun column => !t.isSearchable column with
    | some column => .error (.exactNotSearchable column name)
    | none => .ok ()

end SearchTable

/-- How tables are searched. -/
structure SearchSchema where
  /-- The tables in the order of their names. -/
  tables : List (String × SearchTable)
deriving DecidableEq

namespace SearchSchema

/-- The schema without tables. -/
def empty : SearchSchema := ⟨[]⟩

/-- Tables with one more, in the place its name has in the order, instead of one of that
name. -/
def insertTable (name : String) (table : SearchTable) :
    List (String × SearchTable) → List (String × SearchTable)
  | [] => [(name, table)]
  | (n, t) :: rest =>
      if name = n then (n, table) :: rest
      else if name < n then (name, table) :: (n, t) :: rest
      else (n, t) :: insertTable name table rest

/-- The schema with one more table. -/
def insert (schema : SearchSchema) (name : String) (table : SearchTable) : SearchSchema :=
  ⟨insertTable name table schema.tables⟩

/-- The table of a name. -/
def get? (schema : SearchSchema) (name : String) : Option SearchTable :=
  Entries.get? name schema.tables

/-- Every table has a name and can be searched. -/
def validateTables : List (String × SearchTable) → Except ConfigFault Unit
  | [] => .ok ()
  | (name, table) :: rest =>
      if name.isEmpty then .error .emptyTableName
      else do
        table.validate name
        validateTables rest

/-- There are tables, and each can be searched. -/
def validate (schema : SearchSchema) : Except ConfigFault Unit :=
  if schema.tables.isEmpty then .error .noTables else validateTables schema.tables

/-- The schema that is used when no other is given: shops, their pets and their reviews. -/
def petShop : SearchSchema :=
  let shop : SearchTable := ⟨["name", "location"], ["name", "location"], []⟩
  let pet : SearchTable :=
    ⟨["name", "sex", "height", "color", "favorite_food", "description", "pet_shop_name",
        "breed_name"],
      ["name", "sex", "height", "weight", "date_of_birth", "color", "favorite_food",
        "description", "price", "image_url", "pet_shop_name", "breed_name"],
      ["sex"]⟩
  let review : SearchTable :=
    ⟨["content", "pet_shop_name"],
      ["rating", "review_date", "content", "customer_email", "pet_shop_name"], []⟩
  ((empty.insert "PetShop" shop).insert "Pet" pet).insert "Review" review

end SearchSchema

end DocumentSql
