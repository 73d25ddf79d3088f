import DocumentSql.Text.Hex
import DocumentSql.Toml.Form

/-!
# Scalars without quotes in TOML

Truth values, numbers and dates. Only their form matters here, and of a number no more of it
than tells it from the other scalars.
-/

set_option autoImplicit false

namespace DocumentSql.Toml

/-- Every underscore has a digit on both sides; `afterDigit` tells whether one stands right
before the text. -/
def separatesDigits (isDigit : Char → Bool) : Bool → List Char → Bool
  | _, [] => true
  | afterDigit, '_' :: s =>
      afterDigit && (s.head?.any isDigit) && separatesDigits isDigit false s
  | _, c :: s => separatesDigits isDigit (isDigit c) s

/-- A decimal digit, or an underscore between two of them. -/
def isDigitOrMark (c : Char) : Bool := c.isDigit || c = '_'

/-- A whole number does not begin with a zero, unless it is a single digit. -/
def hasLeadingZero (s : List Char) : Bool :=
  s.head? = some '0' && 2 ≤ (s.filter Char.isDigit).length

/-- A number after the letter of its base: digits of the base, or none at all. -/
def isBased (isDigit : Char → Bool) (s : List Char) : Bool :=
  s.all (fun c => isDigit c || c = '_') && separatesDigits isDigit false s

/-- A decimal integer after its sign. The first underscore decides that it is one: what follows
may hold any characters but a space and those that make a floating-point number. -/
def isDecimal (s : List Char) : Bool :=
  match s.dropWhile Char.isDigit with
  | [] => !s.isEmpty && !hasLeadingZero s
  | '_' :: rest =>
      s.head? ≠ some '0' && rest.all (fun c => c ≠ ' ' && c ≠ '.' && c ≠ 'e' && c ≠ 'E') &&
        separatesDigits (fun c => (Text.hexValue? c).isSome) false s
  | _ => false

/-- The text without a sign in front. -/
def dropSign : List Char → List Char
  | '+' :: s => s
  | '-' :: s => s
  | s => s

/-- The exponent of a number, from its letter. -/
def isExponent : List Char → Bool
  | c :: s =>
      (c = 'e' || c = 'E') && (dropSign s).all isDigitOrMark && (dropSign s).any Char.isDigit
  | [] => false

/-- A floating-point number after its sign, but for the place of its underscores. -/
def isMagnitude (s : List Char) : Bool :=
  let whole := s.takeWhile isDigitOrMark
  whole.any Char.isDigit && !hasLeadingZero whole &&
    match s.dropWhile isDigitOrMark with
    | '.' :: rest =>
        let tail := rest.dropWhile isDigitOrMark
        (rest.takeWhile isDigitOrMark).any Char.isDigit && (tail.isEmpty || isExponent tail)
    | rest => isExponent rest

/-- A floating-point number after its sign. -/
def isFloat (s : List Char) : Bool :=
  s = ['i', 'n', 'f'] || s = ['n', 'a', 'n'] ||
    (isMagnitude s && separatesDigits Char.isDigit false s)

/-- A number: in one of three other bases, or decimal with an optional sign. -/
def isNumber : List Char → Bool
  | '0' :: 'x' :: s => isBased (fun c => (Text.hexValue? c).isSome) s
  | '0' :: 'o' :: s => isBased (fun c => '0' ≤ c && c ≤ '7') s
  | '0' :: 'b' :: s => isBased (fun c => c = '0' || c = '1') s
  | s => isDecimal (dropSign s) || isFloat (dropSign s)

/-! ## Dates and times -/

/-- A number of exactly `count` decimal digits, and the rest. -/
def readFixed (count : Nat) (s : List Char) : Option (Nat × List Char) :=
  let digits := s.take count
  if digits.length = count ∧ digits.all Char.isDigit then
    some (Nat.ofDigitChars 10 digits 0, s.drop count)
  else none

/-- The number of days of a month. -/
def daysIn (year month : Nat) : Nat :=
  if month = 2 then
    if year % 4 = 0 ∧ (year % 100 ≠ 0 ∨ year % 400 = 0) then 29 else 28
  else if month = 4 ∨ month = 6 ∨ month = 9 ∨ month = 11 then 30
  else 31

/-- The text after a date. -/
def dropDate (s : List Char) : Option (List Char) := do
  let (year, s) ← readFixed 4 s
  let (month, s) ← readFixed 2 (← dropMark '-' s)
  let (day, s) ← readFixed 2 (← dropMark '-' s)
  if 1 ≤ month ∧ month ≤ 12 ∧ 1 ≤ day ∧ day ≤ daysIn year month then some s else none

/-- The text after a fraction of a second, if there is one. -/
def dropFraction : List Char → Option (List Char)
  | '.' :: s =>
      if (s.takeWhile Char.isDigit).isEmpty then none else some (s.dropWhile Char.isDigit)
  | s => some s

/-- The text after the seconds of a time, if there are any. -/
def dropSeconds : List Char → Option (List Char)
  | ':' :: s => do
      let (second, s) ← readFixed 2 s
      if second ≤ 60 then dropFraction s else none
  | s => some s

/-- The text after a time of day. -/
def dropTime (s : List Char) : Option (List Char) := do
  let (hour, s) ← readFixed 2 s
  let (minute, s) ← readFixed 2 (← dropMark ':' s)
  if hour ≤ 23 ∧ minute ≤ 59 then dropSeconds s else none

/-- An offset from universal time, or nothing. -/
def isOffset : List Char → Bool
  | [] => true
  | ['Z'] => true
  | ['z'] => true
  | c :: s =>
      (c = '+' || c = '-') &&
        match readFixed 2 s with
        | some (hour, ':' :: rest) =>
            match readFixed 2 rest with
            | some (minute, []) => hour ≤ 23 && minute ≤ 59
            | _ => false
        | _ => false

/-- A date, a time, or both with an optional offset. -/
def isDateTime (s : List Char) : Bool :=
  match dropDate s with
  | some [] => true
  | some (c :: rest) =>
      (c = 'T' || c = 't' || c = ' ') &&
        match dropTime rest with
        | some rest => isOffset rest
        | none => false
  | none => dropTime s = some []

/-- A scalar without quotes. -/
def isScalar (s : List Char) : Bool :=
  s = ['t', 'r', 'u', 'e'] || s = ['f', 'a', 'l', 's', 'e'] || isNumber s || isDateTime s

end DocumentSql.Toml
