import DocumentSql.Toml.Basic
import DocumentSql.Toml.Form
import DocumentSql.Toml.Plain
import DocumentSql.Toml.Quoted

/-!
# Reading TOML documents

The meaning of a document that has a form. Lines are taken in order, and the first fault is
reported: of a line, first a fault in its key, then one in its value, and last that the key has
no place. That a table in double brackets has no place is found behind its last line.
-/

set_option autoImplicit false

namespace DocumentSql.Toml

/-- Why a text is no document. -/
inductive Fault where
  /-- The text has no form, a word has no meaning, or a key has no place. -/
  | malformed
  /-- A key has too many parts. -/
  | longKey
deriving DecidableEq

/-- A value, or that the text is malformed. -/
def orMalformed {α : Type} : Option α → Except Fault α
  | some a => .ok a
  | none => .error .malformed

/-! ## Words -/

/-- A character of a key without quotes. -/
def isBareKey (c : Char) : Bool :=
  c.isDigit || c.isUpper || c.isLower || c = '_' || c = '-'

/-- The key that a word stands for. -/
def keyOf (w : Word) : Option String :=
  match readShortString w with
  | some (key, []) => some key
  | _ => if !w.isEmpty && w.all isBareKey then some (String.ofList w) else none

/-- The scalar that a word stands for. -/
def scalarOf (w : Word) : Option Toml :=
  match readString w with
  | some (text, []) => some (.string text)
  | _ => if isScalar w then some .scalar else none

/-- The parts of a key: the path, and its last part. -/
def pathOf (words : List Word) : Except Fault (List String × String) := do
  let keys ← orMalformed (words.mapM keyOf)
  if maxDepth < keys.length then .error .longKey
  else
    let last ← orMalformed keys.getLast?
    .ok (keys.dropLast, last)

/-! ## Values -/

mutual

/-- The value that a form stands for. -/
def ofForm : Form → Except Fault Toml
  | .word w => orMalformed (scalarOf w)
  | .array items => do
      let items ← ofItems items
      .ok (.array items)
  | .table pairs => do
      let entries ← ofPairs [] pairs
      .ok (.table .inlined entries)

/-- The values that forms stand for. -/
def ofItems : List Form → Except Fault (List Toml)
  | [] => .ok []
  | item :: items => do
      let item ← ofForm item
      let items ← ofItems items
      .ok (item :: items)

/-- The entries of an inline table, after the given ones. -/
def ofPairs (entries : Entries) : List (List Word × Form) → Except Fault Entries
  | [] => .ok entries
  | (words, value) :: pairs => do
      let (path, key) ← pathOf words
      let value ← ofForm value
      let (_, entries) ← orMalformed (addPair path key value .inlined entries)
      ofPairs entries pairs

end

/-! ## Documents -/

/-- A document under construction. A table in double brackets gets its place when it is complete,
so that the lines under its header are read although there is no place for it. -/
inductive Draft where
  /-- All tables so far have their place, and the path leads to the current one. -/
  | placed (header : List String) (entries : Entries)
  /-- The current table has no place in the document. -/
  | misplaced (inner : Entries)

/-- The entries of a document whose current table is complete. -/
def Draft.complete : Draft → Option Entries
  | .placed _ entries => some entries
  | .misplaced _ => none

/-- The draft after a header. Only a table in double brackets may go without a place for now. -/
def openHeader (repeated : Bool) (path : List String) (key : String) (entries : Entries) :
    Option Draft :=
  let enter := if repeated then appendTable key else openTable key
  match changeAt false enter path .header entries with
  | some (_, entries) => some (.placed (path ++ [key]) entries)
  | none => if repeated then some (.misplaced []) else none

/-- The draft with a value under the current header. -/
def Draft.addPair (path : List String) (key : String) (value : Toml) : Draft → Option Draft
  | .placed header entries => do
      let (_, entries) ← changeAt false (Toml.addPair path key value) header .header entries
      some (.placed header entries)
  | .misplaced inner => do
      let (_, inner) ← Toml.addPair path key value .header inner
      some (.misplaced inner)

/-- The draft after one more line. A header completes the table before it. -/
def Draft.addLine (draft : Draft) : Line → Except Fault Draft
  | .header repeated words => do
      let entries ← orMalformed draft.complete
      let (path, key) ← pathOf words
      orMalformed (openHeader repeated path key entries)
  | .pair words value => do
      let (path, key) ← pathOf words
      let value ← ofForm value
      orMalformed (draft.addPair path key value)

/-- The text without a mark of its byte order in front. -/
def dropByteOrderMark : List Char → List Char
  | c :: s => if c.toNat = 0xFEFF then s else c :: s
  | [] => []

/-- The entries of the document in a text. -/
def read (text : String) : Except Fault Entries := do
  let lines ← orMalformed (readLines (dropByteOrderMark text.toList))
  let draft ← lines.foldlM Draft.addLine (.placed [] [])
  orMalformed draft.complete

end DocumentSql.Toml
