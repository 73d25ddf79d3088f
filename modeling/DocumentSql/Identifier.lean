import DocumentSql.Text.Pieces

/-!
# Quoted identifiers

Names of tables and columns stand between backticks in a statement. The name itself is written
as it is.
-/

set_option autoImplicit false

namespace DocumentSql.Identifier

/-- A name between backticks. -/
def quote (name : String) : String := "`" ++ name ++ "`"

/-- Names between backticks, one after the other. -/
def quoteList (names : List String) : String := Text.joinWith ", " (names.map quote)

/-- A column with the table it belongs to. -/
def quoteQualified (table column : String) : String := quote table ++ "." ++ quote column

end DocumentSql.Identifier
