import DocumentSql.Toml.Word

/-!
# Forms of TOML

A document as it is written: lines with headers and lines with a key and a value, where a value
is a word, an array or an inline table. `readLines` finds the form of a text without asking
what its words mean, so that every fault of form is found before any other.

Where a key or a value is missing but its place is clear, an empty word stands there.
-/

set_option autoImplicit false

namespace DocumentSql.Toml

/-- A value as it is written. -/
inductive Form where
  | word (w : Word)
  | array (items : List Form)
  /-- Keys and values between braces; a key is a word or several with points between them. -/
  | table (pairs : List (List Word × Form))

/-- A line of a document. -/
inductive Line where
  /-- The header of a table, or of one more table in an array of tables. -/
  | header (repeated : Bool) (key : List Word)
  | pair (key : List Word) (value : Form)

/-- How many arrays and inline tables may stand inside one another, and how many parts a key may
have. -/
def maxDepth : Nat := 80

/-! ## Between words -/

/-- The text from the end of the line on, where there may be a comment before it. -/
def skipComment : List Char → Option (List Char)
  | '#' :: s =>
      let comment := s.takeWhile isPlain
      let rest := s.drop comment.length
      if rest.isEmpty || (lineEnd? rest).isSome then some rest else none
  | s => some s

/-- The next line, when nothing but blanks and a comment is left of this one. -/
def endLine (s : List Char) : Option (List Char) := do
  match ← skipComment (skipBlanks s) with
  | [] => some []
  | rest => lineEnd? rest

/-- The text after blanks, comments and line ends, as they may stand inside an array. -/
def skipLinesWith : Nat → List Char → Option (List Char)
  | 0, s => some s
  | fuel + 1, s => do
      let s ← skipComment (skipBlanks s)
      match lineEnd? s with
      | some rest => skipLinesWith fuel rest
      | none => some s

/-- The text after blanks, comments and line ends. -/
def skipLines (s : List Char) : Option (List Char) := skipLinesWith (s.length + 1) s

/-- The text after a given character. -/
def dropMark (mark : Char) : List Char → Option (List Char)
  | c :: s => if c = mark then some s else none
  | [] => none

/-! ## Keys -/

/-- The words of a key, and the text after it and the blanks there. -/
def readKeyWith : Nat → List Char → List Word × List Char
  | 0, s => ([], s)
  | fuel + 1, s =>
      let s := skipBlanks s
      let word := s.take (keyLength s)
      match skipBlanks (s.drop (keyLength s)) with
      | '.' :: rest =>
          let (words, rest) := readKeyWith fuel rest
          (word :: words, rest)
      | rest => ([word], rest)

/-- The words of a key, and the text after it and the blanks there. -/
def readKey (s : List Char) : List Word × List Char := readKeyWith (s.length + 1) s

/-! ## Values -/

/-- A word as a value. -/
def readWord (s : List Char) : Option (Form × List Char) :=
  match scalarLength s with
  | 0 => none
  | n => some (.word (s.take n), s.drop n)

/-- The items of an array up to its end, each read by `read`. -/
def readItemsWith (read : List Char → Option (Form × List Char)) :
    Nat → List Char → Option (List Form × List Char)
  | 0, _ => none
  | fuel + 1, s => do
      match ← skipLines s with
      | ']' :: s => some ([], s)
      | s =>
          let (item, s) ← read s
          match ← skipLines s with
          | ']' :: s => some ([item], s)
          | ',' :: s => do
              let (items, s) ← readItemsWith read fuel s
              some (item :: items, s)
          | _ => none

/-- The value behind a key between braces. At the end of the table it may be missing, also
together with its equals sign. -/
def readInner (read : List Char → Option (Form × List Char)) :
    List Char → Option (Form × List Char)
  | '\x7d' :: s => some (.word [], '\x7d' :: s)
  | '=' :: s => do
      match ← skipLines s with
      | '\x7d' :: s => some (.word [], '\x7d' :: s)
      | s => read s
  | _ => none

/-- The pairs of an inline table up to its end, each value read by `read`. Only a key has to
stay on one line. -/
def readPairsWith (read : List Char → Option (Form × List Char)) :
    Nat → List Char → Option (List (List Word × Form) × List Char)
  | 0, _ => none
  | fuel + 1, s => do
      match ← skipLines s with
      | '\x7d' :: s => some ([], s)
      | s =>
          let (key, s) := readKey s
          let (value, s) ← readInner read (← skipLines s)
          match ← skipLines s with
          | '\x7d' :: s => some ([(key, value)], s)
          | ',' :: s => do
              let (pairs, s) ← readPairsWith read fuel s
              some ((key, value) :: pairs, s)
          | _ => none

/-- A value with at most `depth` arrays and inline tables around any part of it. -/
def readFormWithin : Nat → List Char → Option (Form × List Char)
  | depth + 1, '[' :: s => do
      let (items, s) ← readItemsWith (readFormWithin depth) (s.length + 1) s
      some (.array items, s)
  | depth + 1, '\x7b' :: s => do
      let (pairs, s) ← readPairsWith (readFormWithin depth) (s.length + 1) s
      some (.table pairs, s)
  | _, s => readWord s

/-! ## Lines -/

/-- The next line, whatever words and marks are left of this one. -/
def skipLineWith : Nat → List Char → Option (List Char)
  | 0, s => some s
  | fuel + 1, s =>
      match s with
      | [] => some []
      | c :: _ =>
          if c = '#' || c = '\n' || c = '\r' then endLine s
          else skipLineWith fuel (s.drop (max 1 (keyLength s)))

/-- The next line after a header without closing brackets, which may be missing only where the
key broke off. -/
def endHeader (key : List Word) (s : List Char) : Option (List Char) :=
  if key.getLast? = some [] then skipLineWith (s.length + 1) s else none

/-- A header after its first bracket, and the next line. -/
def readHeader : List Char → Option (Line × List Char)
  | '[' :: s => do
      let (key, s) := readKey s
      let s ←
        match s with
        | ']' :: s => do endLine (← dropMark ']' s)
        | s => endHeader key s
      some (.header true key, s)
  | s => do
      let (key, s) := readKey s
      let s ←
        match s with
        | ']' :: s => endLine s
        | s => endHeader key s
      some (.header false key, s)

/-- The value of a line, which may be missing at its end. -/
def readOuter (s : List Char) : Option (Form × List Char) :=
  if (endLine s).isSome then some (.word [], s) else readFormWithin maxDepth s

/-- A key with its value, and the next line. -/
def readPair (s : List Char) : Option (Line × List Char) := do
  let (key, s) := readKey s
  let s ← dropMark '=' s
  let (value, s) ← readOuter (skipBlanks s)
  some (.pair key value, ← endLine s)

/-- All lines that are not blank. -/
def readLinesWith : Nat → List Char → Option (List Line)
  | 0, _ => none
  | fuel + 1, s =>
      match skipBlanks s with
      | [] => some []
      | '[' :: s => do
          let (line, s) ← readHeader s
          let lines ← readLinesWith fuel s
          some (line :: lines)
      | c :: s =>
          if c = '#' || (lineEnd? (c :: s)).isSome then do
            readLinesWith fuel (← endLine (c :: s))
          else do
            let (line, s) ← readPair (c :: s)
            let lines ← readLinesWith fuel s
            some (line :: lines)

/-- All lines of a text that are not blank; `none` when the text has no form. -/
def readLines (s : List Char) : Option (List Line) := readLinesWith (s.length + 1) s

end DocumentSql.Toml
