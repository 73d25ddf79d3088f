import DocumentSql.Text.Hex

/-!
# Quoted strings

A text between double quotes, in the spelling of JSON: the quote and the backslash are written
after a backslash, five control characters have a letter of their own, the others below
U+0020 are written with four hexadecimal digits, and everything else stands for itself.
-/

set_option autoImplicit false

namespace DocumentSql.Text

/-- How one character is spelled between the quotes. -/
def escapeChar (c : Char) : List Char :=
  if c = '"' then ['\\', '"']
  else if c = '\\' then ['\\', '\\']
  else if c = '\n' then ['\\', 'n']
  else if c = '\r' then ['\\', 'r']
  else if c = '\t' then ['\\', 't']
  else if c = '\x08' then ['\\', 'b']
  else if c = '\x0c' then ['\\', 'f']
  else if c.toNat < 0x20 then '\\' :: 'u' :: fourHexDigits c.toNat
  else [c]

/-- The characters between the quotes. -/
def escape (cs : List Char) : List Char := cs.flatMap escapeChar

/-- The text between double quotes. -/
def quoted (s : String) : String :=
  "\"" ++ String.ofList (escape s.toList) ++ "\""

/-- Escaping works character by character. -/
@[simp] theorem escape_append (a b : List Char) : escape (a ++ b) = escape a ++ escape b := by
  simp [escape]

/-- The quoted text as a list of characters. -/
theorem toList_quoted (s : String) :
    (quoted s).toList = '"' :: (escape s.toList ++ ['"']) := by
  simp [quoted]

end DocumentSql.Text
