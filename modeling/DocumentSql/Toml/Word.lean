/-!
# Words of TOML

A text is cut into words before anything is decided about them: a word is a string with its
quotes, or a run of characters without quotes. How far a word reaches depends on little. A
string without a closing quote still is a word, and so is a number with a letter in it; that
they mean nothing shows later.
-/

set_option autoImplicit false

namespace DocumentSql.Toml

/-- A key or a scalar as it is written, with its quotes. -/
abbrev Word := List Char

/-- A character that may stand in a string or a comment: no control but the tab. -/
def isPlain (c : Char) : Bool := c = '\t' || (0x20 ≤ c.toNat && c.toNat ≠ 0x7F)

/-- A blank inside a line. -/
def isBlank (c : Char) : Bool := c = ' ' || c = '\t'

/-- A quote. -/
def isQuote (c : Char) : Bool := c = '"' || c = '\x27'

/-- A character that stands for itself between words. A quote does so only before a word. -/
def isMark (c : Char) : Bool :=
  c = '.' || c = '=' || c = ',' || c = '[' || c = ']' || c = '\x7b' || c = '\x7d' || c = '#' ||
    c = ' ' || c = '\t' || c = '\n' || c = '\r'

/-- The text after a line end, if it starts with one. -/
def lineEnd? : List Char → Option (List Char)
  | '\n' :: s => some s
  | '\r' :: '\n' :: s => some s
  | _ => none

/-- The text from its first character that is not a blank of the line. -/
def skipBlanks (s : List Char) : List Char := s.dropWhile isBlank

/-! ## Strings -/

/-- The length of a basic string after its opening quote: up to its closing quote, or up to the
end of the line when there is none. -/
def basicLength : List Char → Nat
  | '\\' :: '\\' :: s => basicLength s + 2
  | '\\' :: '"' :: s => basicLength s + 2
  | '"' :: _ => 1
  | '\n' :: _ => 0
  | _ :: s => basicLength s + 1
  | [] => 0

/-- The length of a literal string after its opening quote. -/
def literalLength : List Char → Nat
  | '\x27' :: _ => 1
  | '\n' :: _ => 0
  | _ :: s => literalLength s + 1
  | [] => 0

/-- The length of a run of quotes that closes a string of several lines: the quotes that close
it, and before them up to two that belong to it. -/
def closingLength (quote : Char) (s : List Char) : Nat :=
  ((s.take 5).takeWhile (· = quote)).length

/-- The length of a basic string of several lines after its opening quotes. -/
def longBasicLength : List Char → Nat
  | '\\' :: '\\' :: s => longBasicLength s + 2
  | '\\' :: '"' :: s => longBasicLength s + 2
  | '"' :: '"' :: '"' :: s => closingLength '"' ('"' :: '"' :: '"' :: s)
  | _ :: s => longBasicLength s + 1
  | [] => 0

/-- The length of a literal string of several lines after its opening quotes. -/
def longLiteralLength : List Char → Nat
  | '\x27' :: '\x27' :: '\x27' :: s => closingLength '\x27' ('\x27' :: '\x27' :: '\x27' :: s)
  | _ :: s => longLiteralLength s + 1
  | [] => 0

/-- The length of the string at the start of a text; zero when there is none. -/
def stringLength : List Char → Nat
  | '"' :: '"' :: '"' :: s => longBasicLength s + 3
  | '"' :: s => basicLength s + 1
  | '\x27' :: '\x27' :: '\x27' :: s => longLiteralLength s + 3
  | '\x27' :: s => literalLength s + 1
  | _ => 0

/-! ## Keys and scalars -/

/-- The length of the key at the start of a text; zero when there is none. -/
def keyLength : List Char → Nat
  | [] => 0
  | c :: s =>
      if isQuote c then stringLength (c :: s)
      else ((c :: s).takeWhile fun c => !isMark c).length

/-- The length of a scalar without quotes as far as it goes on behind `before`. Points belong to
it where no blank is before them, and so do blanks with more of it behind them. A quote belongs
to it where neither a point nor a blank is before it. -/
def bareLength : Char → List Char → Nat
  | _, [] => 0
  | before, c :: s =>
      if c = '.' then if isBlank before then 0 else bareLength c s + 1
      else if isBlank c then
        match bareLength c s with
        | 0 => 0
        | n + 1 => n + 2
      else if isMark c || (isQuote c && (before = '.' || isBlank before)) then 0
      else bareLength c s + 1

/-- The length of the scalar at the start of a text; zero when there is none. A text without a
quote in front starts as it would go on behind a point. -/
def scalarLength : List Char → Nat
  | [] => 0
  | c :: s => if isQuote c then stringLength (c :: s) else bareLength '.' (c :: s)

end DocumentSql.Toml
