import DocumentSql.Number.Binary64

/-!
# The shortest decimal of a binary number

Of all decimals that round to a given number, `Binary64.shortest` takes one with the fewest
digits, and of those the nearest to the number. The reals that round to `m · 2 ^ e` form an
interval whose ends lie half way to the neighbours; the ends belong to it when `m` is even.
-/

set_option autoImplicit false

namespace DocumentSql

/-- The decimal `digits · 10 ^ exponent`. -/
structure Decimal where
  /-- The digits as one number. -/
  digits : Nat
  /-- The power of ten. -/
  exponent : Int
deriving DecidableEq

namespace Binary64

/-- The ends of the rounding interval, in quarters of the unit `2 ^ exponent`. Below a power of
two the neighbour is only half a unit away. -/
def interval (x : Binary64) : Nat × Nat :=
  let below := if 2 * x.mantissa = mantissaBound ∧ leastExponent < x.exponent then 1 else 2
  (4 * x.mantissa - below, 4 * x.mantissa + 2)

/-- Factors `(a, b)` with which `d · 10 ^ g` compares to `q` quarters of the unit as `d * a`
does to `q * b`. -/
def gridFactors (x : Binary64) (g : Int) : Nat × Nat :=
  (Nat.pow 10 g.toNat * Nat.pow 2 (2 - x.exponent).toNat,
    Nat.pow 2 (x.exponent - 2).toNat * Nat.pow 10 (-g).toNat)

/-- `d · 10 ^ g` lies in the rounding interval. -/
def admits (x : Binary64) (g : Int) (d : Nat) : Bool :=
  let (a, b) := x.gridFactors g
  let (low, high) := x.interval
  if x.mantissa % 2 = 0 then low * b ≤ d * a && d * a ≤ high * b
  else low * b < d * a && d * a < high * b

/-- The multiple of `10 ^ g` in the rounding interval that is nearest to the number, of two
the even one; only the neighbours of the number need a look. -/
def onGrid? (x : Binary64) (g : Int) : Option Decimal :=
  let (a, b) := x.gridFactors g
  let exact := 4 * x.mantissa * b
  let d := exact / a
  match x.admits g d, x.admits g (d + 1) with
  | false, false => none
  | true, false => some ⟨d, g⟩
  | false, true => some ⟨d + 1, g⟩
  | true, true =>
      let middle := (2 * d + 1) * a
      if 2 * exact < middle then some ⟨d, g⟩
      else if middle < 2 * exact then some ⟨d + 1, g⟩
      else some ⟨d + d % 2, g⟩

/-- A power of ten above the number. -/
def startExponent (x : Binary64) : Int :=
  ((Nat.log2 x.mantissa : Int) + 1 + x.exponent) * 30103 / 100000 + 2

/-- The decimal with the fewest digits that rounds to the number, and of those the nearest:
the first hit on ever finer grids. -/
def shortest (x : Binary64) : Decimal :=
  if x.mantissa = 0 then ⟨0, 0⟩
  else
    match (List.range 24).findSome? fun (k : Nat) => x.onGrid? (x.startExponent - k) with
    | some d => d
    | none =>
        ⟨x.mantissa * Nat.pow 2 x.exponent.toNat * Nat.pow 5 (-x.exponent).toNat,
          min x.exponent 0⟩

end Binary64

end DocumentSql
