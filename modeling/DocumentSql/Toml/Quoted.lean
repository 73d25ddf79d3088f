import DocumentSql.Text.Hex
import DocumentSql.Toml.Word

/-!
# Strings in TOML

The four kinds of strings: basic ones with escapes and literal ones without, each on one line
or, between three quotes, on several.
-/

set_option autoImplicit false

namespace DocumentSql.Toml

/-- The value of exactly `count` hexadecimal digits, added to what came before. -/
def readHex : Nat → Nat → List Char → Option (Nat × List Char)
  | 0, value, s => some (value, s)
  | _ + 1, _, [] => none
  | count + 1, value, c :: s => do
      let digit ← Text.hexValue? c
      readHex count (value * 16 + digit) s

/-- The character with a code point of `count` hexadecimal digits. -/
def readCodePoint (count : Nat) (s : List Char) : Option (Char × List Char) := do
  let (code, s) ← readHex count 0 s
  if code.isValidChar then some (Char.ofNat code, s) else none

/-- The character named after a backslash. -/
def readEscape : List Char → Option (Char × List Char)
  | 'b' :: s => some ('\x08', s)
  | 't' :: s => some ('\t', s)
  | 'n' :: s => some ('\n', s)
  | 'f' :: s => some ('\x0c', s)
  | 'r' :: s => some ('\r', s)
  | 'e' :: s => some ('\x1b', s)
  | '"' :: s => some ('"', s)
  | '\\' :: s => some ('\\', s)
  | 'x' :: s => readCodePoint 2 s
  | 'u' :: s => readCodePoint 4 s
  | 'U' :: s => readCodePoint 8 s
  | _ => none

/-- The characters of a basic string up to its closing quote. -/
def readBasicWith : Nat → List Char → Option (List Char × List Char)
  | 0, _ => none
  | _ + 1, [] => none
  | _ + 1, '"' :: s => some ([], s)
  | fuel + 1, '\\' :: s => do
      let (c, s) ← readEscape s
      let (cs, s) ← readBasicWith fuel s
      some (c :: cs, s)
  | fuel + 1, c :: s =>
      if isPlain c then do
        let (cs, s) ← readBasicWith fuel s
        some (c :: cs, s)
      else none

/-- The characters of a literal string up to its closing quote. -/
def readLiteral : List Char → Option (List Char × List Char)
  | [] => none
  | '\x27' :: s => some ([], s)
  | c :: s =>
      if isPlain c then do
        let (cs, s) ← readLiteral s
        some (c :: cs, s)
      else none

/-- The number of quotes a text begins with, and the rest. -/
def countQuotes (quote : Char) (s : List Char) : Nat × List Char :=
  ((s.takeWhile (· = quote)).length, s.dropWhile (· = quote))

/-- What a run of quotes in a string of several lines means: three of them close the string,
and up to two before those belong to it. -/
def closing? (count : Nat) : Option (Option Nat) :=
  if count < 3 then some none
  else if count ≤ 5 then some (some (count - 3))
  else none

/-- The text after blanks and line ends. -/
def skipSpaceWith : Nat → List Char → List Char
  | 0, s => s
  | fuel + 1, s =>
      let s := s.dropWhile isBlank
      match lineEnd? s with
      | some rest => skipSpaceWith fuel rest
      | none => s

/-- The text after a backslash at the end of a line: blanks and line ends are passed over, and
there has to be a line end before anything else. -/
def joinLines (s : List Char) : Option (List Char) :=
  (lineEnd? (s.dropWhile isBlank)).map fun rest => skipSpaceWith (rest.length + 1) rest

/-- The characters of a basic string of several lines up to its closing quotes. A line end
stays as it is written. -/
def readLongBasicWith : Nat → List Char → Option (List Char × List Char)
  | 0, _ => none
  | _ + 1, [] => none
  | fuel + 1, '\\' :: s =>
      match joinLines s with
      | some s => readLongBasicWith fuel s
      | none => do
          let (c, s) ← readEscape s
          let (cs, s) ← readLongBasicWith fuel s
          some (c :: cs, s)
  | fuel + 1, c :: s =>
      if c = '"' then do
        let (count, rest) := countQuotes '"' (c :: s)
        match ← closing? count with
        | some extra => some (List.replicate extra '"', rest)
        | none => do
            let (cs, s) ← readLongBasicWith fuel rest
            some (List.replicate count '"' ++ cs, s)
      else if isPlain c || (lineEnd? (c :: s)).isSome then do
        let (cs, s) ← readLongBasicWith fuel s
        some (c :: cs, s)
      else none

/-- The characters of a literal string of several lines up to its closing quotes. -/
def readLongLiteralWith : Nat → List Char → Option (List Char × List Char)
  | 0, _ => none
  | _ + 1, [] => none
  | fuel + 1, c :: s =>
      if c = '\x27' then do
        let (count, rest) := countQuotes '\x27' (c :: s)
        match ← closing? count with
        | some extra => some (List.replicate extra '\x27', rest)
        | none => do
            let (cs, s) ← readLongLiteralWith fuel rest
            some (List.replicate count '\x27' ++ cs, s)
      else if isPlain c || (lineEnd? (c :: s)).isSome then do
        let (cs, s) ← readLongLiteralWith fuel s
        some (c :: cs, s)
      else none

/-- A line end right after the opening quotes does not belong to the string. -/
def skipFirstLineEnd (s : List Char) : List Char := (lineEnd? s).getD s

/-- A string on one line, from its opening quote. -/
def readShortString : List Char → Option (String × List Char)
  | '"' :: s => do
      let (cs, s) ← readBasicWith (s.length + 1) s
      some (String.ofList cs, s)
  | '\x27' :: s => do
      let (cs, s) ← readLiteral s
      some (String.ofList cs, s)
  | _ => none

/-- A string of any kind, from its opening quote. -/
def readString : List Char → Option (String × List Char)
  | '"' :: '"' :: '"' :: s => do
      let (cs, s) ← readLongBasicWith (s.length + 1) (skipFirstLineEnd s)
      some (String.ofList cs, s)
  | '\x27' :: '\x27' :: '\x27' :: s => do
      let (cs, s) ← readLongLiteralWith (s.length + 1) (skipFirstLineEnd s)
      some (String.ofList cs, s)
  | s => readShortString s

end DocumentSql.Toml
