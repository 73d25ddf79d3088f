/-!
# Hexadecimal digits
-/

set_option autoImplicit false

namespace DocumentSql.Text

/-- The value of a hexadecimal digit of either case. -/
def hexValue? (c : Char) : Option Nat :=
  if c.isDigit then some (c.toNat - '0'.toNat)
  else if 'a' ≤ c ∧ c ≤ 'f' then some (c.toNat - 'a'.toNat + 10)
  else if 'A' ≤ c ∧ c ≤ 'F' then some (c.toNat - 'A'.toNat + 10)
  else none

/-- The last four hexadecimal digits of `n`, lower case, leading zeros kept. -/
def fourHexDigits (n : Nat) : List Char :=
  [n / 4096, n / 256, n / 16, n].map fun k => Nat.digitChar (k % 16)

/-- A lower-case digit has the value it was written for. -/
theorem hexValue?_digitChar {n : Nat} (h : n < 16) : hexValue? (Nat.digitChar n) = some n := by
  have cases : ∀ m : Fin 16, hexValue? (Nat.digitChar m.val) = some m.val := by decide
  exact cases ⟨n, h⟩

end DocumentSql.Text
