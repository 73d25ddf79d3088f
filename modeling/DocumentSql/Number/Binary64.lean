/-!
# Binary floating-point numbers of 64 bits

A finite number is a sign, a mantissa below `2 ^ 53` and a power of two. A result that is no
such number is rounded to the nearest one, a tie going to the even mantissa; everything is
computed with exact natural numbers.

A decimal becomes a number in one of two ways. `Binary64.ofDecimal` rounds it once, so that the
nearest number comes out. `Binary64.ofParts` rounds the digits and then every product or quotient
by a power of ten, so that what comes out may be a neighbour of the nearest number.
-/

set_option autoImplicit false

namespace DocumentSql

/-- The number `± mantissa · 2 ^ exponent`. -/
structure Binary64 where
  /-- The sign; zero has one too. -/
  negative : Bool
  /-- An integer below `2 ^ 53`. -/
  mantissa : Nat
  /-- The power of two, from `-1074` to `971`. -/
  exponent : Int
deriving DecidableEq

namespace Binary64

/-- The least exponent. -/
def leastExponent : Int := -1074

/-- The greatest exponent. -/
def greatestExponent : Int := 971

/-- Mantissas are less than this: `2 ^ 53`. -/
def mantissaBound : Nat := 9007199254740992

/-- Zero, with its sign. -/
def zero (negative : Bool) : Binary64 := ⟨negative, 0, leastExponent⟩

/-- The integer nearest to `num / den`, of two the even one. -/
def roundToEven (num den : Nat) : Nat :=
  let quotient := num / den
  let twice := 2 * (num % den)
  if twice < den then quotient
  else if den < twice then quotient + 1
  else quotient + quotient % 2

/-- `num / den · 2 ^ (-e)` as a quotient of natural numbers. -/
def scaled (num den : Nat) (e : Int) : Nat × Nat :=
  (num * Nat.pow 2 (-e).toNat, den * Nat.pow 2 e.toNat)

/-- The exponent at which a positive quotient has a mantissa of 53 bits, or the least one for
a quotient too small for that. -/
def exponentFor (num den : Nat) : Int :=
  let guess : Int := (Nat.log2 num : Int) - Nat.log2 den - 53
  let (n, d) := scaled num den guess
  max leastExponent (if n / d < mantissaBound then guess else guess + 1)

/-- The number nearest to the quotient `num / den`; `none` when it is beyond the greatest finite
number. -/
def ofQuotient (negative : Bool) (num den : Nat) : Option Binary64 :=
  if num = 0 then some (zero negative)
  else
    let e := exponentFor num den
    let (n, d) := scaled num den e
    let m := roundToEven n d
    let (m, e) := if m < mantissaBound then (m, e) else (m / 2, e + 1)
    if e ≤ greatestExponent then some ⟨negative, m, e⟩ else none

/-- The number nearest to `± digits · 10 ^ exponent`; `none` when it is beyond the greatest
finite number. Magnitudes outside `10 ^ ± 330` are decided by the count of digits alone. -/
def ofDecimal (negative : Bool) (digits : Nat) (exponent : Int) : Option Binary64 :=
  if digits = 0 then some (zero negative)
  else
    let magnitude : Int := exponent + (Nat.toDigits 10 digits).length
    if 330 < magnitude then none
    else if magnitude < -330 then some (zero negative)
    else ofQuotient negative (digits * Nat.pow 10 exponent.toNat)
      (Nat.pow 10 (-exponent).toNat)

/-- The magnitude of a number as a quotient of natural numbers. -/
def magnitude (x : Binary64) : Nat × Nat :=
  (x.mantissa * Nat.pow 2 x.exponent.toNat, Nat.pow 2 (-x.exponent).toNat)

/-- The product of two numbers, rounded; `none` when it is too large. -/
def mul (x y : Binary64) : Option Binary64 :=
  let (a, b) := x.magnitude
  let (c, d) := y.magnitude
  ofQuotient (x.negative != y.negative) (a * c) (b * d)

/-- The quotient of a number by one that is not zero, rounded; `none` when it is too large. -/
def div (x y : Binary64) : Option Binary64 :=
  let (a, b) := x.magnitude
  let (c, d) := y.magnitude
  ofQuotient (x.negative != y.negative) (a * d) (b * c)

/-- The greatest power of ten that is a finite number is `10 ^ 308`. -/
def greatestTenPower : Nat := 308

/-- The number nearest to `10 ^ k`. -/
def tenPower? (k : Nat) : Option Binary64 := ofQuotient false (Nat.pow 10 k) 1

/-- The number after `count` divisions by `10 ^ 308`; zero is left at once. -/
def shrink : Nat → Binary64 → Option Binary64
  | 0, x => some x
  | count + 1, x =>
      if x.mantissa = 0 then some x
      else do
        let y ← x.div (← tenPower? greatestTenPower)
        shrink count y

/-- The number made of `± significand · 10 ^ exponent` in steps that round one by one: the
significand is rounded and then multiplied by a power of ten, or divided by one, several times
if the exponent is less than `-308`. `none` when it is too large. -/
def ofParts (negative : Bool) (significand : Nat) (exponent : Int) : Option Binary64 := do
  let x ← ofQuotient negative significand 1
  if 0 ≤ exponent then
    if exponent ≤ greatestTenPower then x.mul (← tenPower? exponent.toNat)
    else if x.mantissa = 0 then some x
    else none
  else
    let places := (-exponent).toNat - 1
    let y ← shrink (places / greatestTenPower) x
    y.div (← tenPower? (places % greatestTenPower + 1))

-- `3e23` lies between two numbers; the nearest of them is the next one above.
example : ofParts false 3 23 = some ⟨false, 8940696716308593, 25⟩ ∧
    ofDecimal false 3 23 = some ⟨false, 8940696716308594, 25⟩ := by decide +kernel

end Binary64

end DocumentSql
