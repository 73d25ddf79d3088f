import DocumentSql.Number.Shortest

/-!
# Layouts of decimals

How a decimal is laid out as text. A decimal with the digits `d₁d₂…dₙ` and the leading exponent
`e`, that is `d₁.d₂…dₙ · 10 ^ e`, is written positionally while `e` lies in the range of the
layout, and otherwise as a mantissa and an exponent.
-/

set_option autoImplicit false

namespace DocumentSql

/-- The range of leading exponents that are written positionally. -/
structure NumberLayout where
  /-- The least leading exponent without an exponent part. -/
  least : Int
  /-- The greatest leading exponent without an exponent part. -/
  greatest : Int

namespace NumberLayout

/-- The digits with the point in place: at least one digit on either side of it. -/
def positional (digits : List Char) (e : Int) : List Char :=
  if e < 0 then
    '0' :: '.' :: (List.replicate (-e - 1).toNat '0' ++ digits)
  else
    let whole := e.toNat + 1
    if digits.length ≤ whole then
      digits ++ List.replicate (whole - digits.length) '0' ++ ['.', '0']
    else digits.take whole ++ '.' :: digits.drop whole

/-- One digit, the others after a point if there are any, and the exponent with its sign. -/
def scientific (digits : List Char) (e : Int) : List Char :=
  let fraction := if digits.length ≤ 1 then [] else '.' :: digits.drop 1
  let sign := if e < 0 then '-' else '+'
  digits.take 1 ++ fraction ++ 'e' :: sign :: Nat.toDigits 10 e.natAbs

/-- The text of a decimal without its sign. -/
def magnitude (layout : NumberLayout) (d : Decimal) : List Char :=
  let digits := Nat.toDigits 10 d.digits
  let e : Int := d.exponent + digits.length - 1
  if layout.least ≤ e ∧ e ≤ layout.greatest then positional digits e
  else scientific digits e

/-- The text of a binary number: its sign and its shortest decimal. -/
def write (layout : NumberLayout) (x : Binary64) : List Char :=
  let sign := if x.negative then ['-'] else []
  sign ++ layout.magnitude x.shortest

end NumberLayout

end DocumentSql
