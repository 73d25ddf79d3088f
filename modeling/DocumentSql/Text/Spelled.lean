import DocumentSql.Text.Hidden

/-!
# Spelled strings

A text between double quotes in which every character shows: the quote and the backslash are
written after a backslash, four characters have a letter of their own, and the other hidden
characters are written by their code point.
-/

set_option autoImplicit false

namespace DocumentSql.Text

/-- How one character is spelled. -/
def spellChar (c : Char) : List Char :=
  if c = '"' then ['\\', '"']
  else if c = '\\' then ['\\', '\\']
  else if c = '\n' then ['\\', 'n']
  else if c = '\r' then ['\\', 'r']
  else if c = '\t' then ['\\', 't']
  else if c = '\x00' then ['\\', '0']
  else if isHidden c then
    '\\' :: 'u' :: '\x7b' :: (Nat.toDigits 16 c.toNat ++ ['\x7d'])
  else [c]

/-- The text between double quotes, every character shown. -/
def spelled (s : String) : String :=
  "\"" ++ String.ofList (s.toList.flatMap spellChar) ++ "\""

end DocumentSql.Text
