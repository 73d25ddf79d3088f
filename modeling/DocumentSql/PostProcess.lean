import DocumentSql.Identifier
import DocumentSql.Scalar

/-!
# Directives on a result

What happens to the selected rows: sorting by columns in the given order, then a limit and an
offset. They are described by a document or built step by step, and written at the end of a
SELECT.
-/

set_option autoImplicit false

namespace DocumentSql

/-- The direction of a sort. -/
inductive SortDirection where
  | ascending
  | descending
deriving DecidableEq

namespace SortDirection

/-- The direction that an integer describes. Floating-point numbers describe none. -/
def ofJson : Json → Except SchemaFault SortDirection
  | .number (.integer 1) => .ok .ascending
  | .number (.integer (-1)) => .ok .descending
  | v => .error (.invalidDirection v)

/-- The word of a statement. -/
def sql : SortDirection → String
  | .ascending => "ASC"
  | .descending => "DESC"

end SortDirection

/-- Directives on the rows of a result. -/
structure PostProcess where
  /-- The sort columns, the most significant first. -/
  sort : List (String × SortDirection)
  /-- At most how many rows are returned. -/
  limit : Option Nat
  /-- How many rows are passed over. -/
  offset : Option Nat
deriving DecidableEq

namespace PostProcess

/-- No directives. -/
def empty : PostProcess := ⟨[], none, none⟩

/-- The directives with one more sort column, the least significant. -/
def sortBy (p : PostProcess) (column : String) (direction : SortDirection) : PostProcess :=
  { p with sort := p.sort ++ [(column, direction)] }

/-- The directives with a limit. -/
def withLimit (p : PostProcess) (n : Nat) : PostProcess := { p with limit := some n }

/-- The directives with an offset. -/
def withOffset (p : PostProcess) (n : Nat) : PostProcess := { p with offset := some n }

/-- The directives that select the rows from `first` up to, but not including, `last`. -/
def range (first last : Nat) : Except SchemaFault PostProcess :=
  if last < first then .error (.backwardRange first last)
  else .ok ((empty.withOffset first).withLimit (last - first))

/-- There are no directives. -/
def isEmpty (p : PostProcess) : Bool := p.sort.isEmpty && p.limit.isNone && p.offset.isNone

/-! ## Directives from documents -/

/-- The sort columns that the members of an object describe. -/
def sortOfMembers :
    List (String × Json) → Except SchemaFault (List (String × SortDirection))
  | [] => .ok []
  | (column, value) :: rest => do
      let direction ← SortDirection.ofJson value
      let columns ← sortOfMembers rest
      .ok ((column, direction) :: columns)

/-- The number of rows that an integer describes. -/
def countOfJson (key : String) : Json → Except SchemaFault Nat
  | .number (.integer n) =>
      if n < 0 then .error (.negativeCount key n)
      else if JsonNumber.greatestInteger < n then .error (.invalidCount key (.number (.integer n)))
      else .ok n.toNat
  | v => .error (.invalidCount key v)

/-- The directives with what one member of a document describes. -/
def addMember (p : PostProcess) (key : String) (value : Json) :
    Except SchemaFault PostProcess :=
  if key = "$sort" then
    match value with
    | .object members => do
        let columns ← sortOfMembers members
        .ok { p with sort := p.sort ++ columns }
    | v => .error (.sortNotObject v)
  else if key = "$limit" then do
    let n ← countOfJson key value
    .ok (p.withLimit n)
  else if key = "$offset" then do
    let n ← countOfJson key value
    .ok (p.withOffset n)
  else .error (.unknownDirective key)

/-- The directives with what the members of a document describe. -/
def addMembers : PostProcess → List (String × Json) → Except SchemaFault PostProcess
  | p, [] => .ok p
  | p, (key, value) :: rest => do
      let p ← p.addMember key value
      addMembers p rest

/-- The directives a document describes. -/
def ofJson : Json → Except SchemaFault PostProcess
  | .object members => addMembers empty members
  | v => .error (.directivesNotObject v)

/-! ## Directives in statements -/

/-- A sort column with its direction. -/
def sortColumn (entry : String × SortDirection) : String :=
  Identifier.quote entry.1 ++ " " ++ entry.2.sql

/-- The texts of the directives that are given, in the order of a statement. -/
def clauses (p : PostProcess) : List String :=
  let order :=
    if p.sort.isEmpty then []
    else ["ORDER BY " ++ Text.joinWith ", " (p.sort.map sortColumn)]
  let limit := p.limit.toList.map fun n => "LIMIT " ++ toString n
  let offset := p.offset.toList.map fun n => "OFFSET " ++ toString n
  order ++ limit ++ offset

/-- The text of the directives; empty when there are none. -/
def sql (p : PostProcess) : String := Text.joinWith " " p.clauses

end PostProcess

end DocumentSql
