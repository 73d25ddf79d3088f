import DocumentSql.Number.Binary64

/-!
# Reading real numbers

The usual spellings of a real number: an optional sign, then digits with an optional point,
digits on at least one side of it, and an optional exponent; or the words for infinity and for
what is not a number, in any letter case.
-/

set_option autoImplicit false

namespace DocumentSql.Binary64

/-- An optional sign and what follows it. -/
def signed : List Char → Bool × List Char
  | '-' :: s => (true, s)
  | '+' :: s => (false, s)
  | s => (false, s)

/-- The exponent at the end of a spelling; zero if there is none. -/
def exponentOf? : List Char → Option Int
  | [] => some 0
  | c :: s =>
      let (negative, digits) := signed s
      if (c = 'e' || c = 'E') && !digits.isEmpty && digits.all Char.isDigit then
        let n : Int := Nat.ofDigitChars 10 digits 0
        some (if negative then -n else n)
      else none

/-- The number that a spelling without a sign stands for: outside, whether it is a spelling,
and inside, whether the number is finite. -/
def ofMagnitude? (negative : Bool) (s : List Char) : Option (Option Binary64) :=
  let word := String.ofList (s.map Char.toLower)
  if word = "inf" || word = "infinity" || word = "nan" then some none
  else
    let whole := s.takeWhile Char.isDigit
    let rest := s.dropWhile Char.isDigit
    let (places, rest) :=
      match rest with
      | '.' :: rest => (rest.takeWhile Char.isDigit, rest.dropWhile Char.isDigit)
      | rest => ([], rest)
    if whole.isEmpty && places.isEmpty then none
    else
      (exponentOf? rest).map fun e =>
        ofDecimal negative (Nat.ofDigitChars 10 (whole ++ places) 0) (e - places.length)

/-- The number that a spelling stands for: outside, whether it is a spelling, and inside,
whether the number is finite. -/
def ofText? (s : String) : Option (Option Binary64) :=
  let (negative, magnitude) := signed s.toList
  ofMagnitude? negative magnitude

end DocumentSql.Binary64
