import DocumentSql.Json.Basic
import DocumentSql.Text.Hex

/-!
# Reading JSON documents

A strict reader: blanks are space, tab, line feed and carriage return; control characters may
not stand in a string; an escape names a surrogate only as half of a pair. A repeated key keeps
its first position and takes the last value. Containers nest at most `Json.deepest` levels.

A document that does not read fails in one of two ways: it ended too early, or something stands
where it may not. The reader goes from left to right and reports the first failure.
-/

set_option autoImplicit false

namespace DocumentSql.Json

/-- Why a document does not read. -/
inductive ReadFailure where
  /-- The text ends before the document does. -/
  | truncated
  /-- A character stands where it may not, or a number is too large. -/
  | malformed
deriving DecidableEq

/-- How many arrays and objects may be nested in each other. -/
def deepest : Nat := 127

/-- What a step of the reader gives: most often a result and the rest of the text. -/
abbrev Reading := Except ReadFailure

/-- The failure at a place where something else was needed: the text ended, or it goes on with
the wrong character. -/
def failureAt : List Char → ReadFailure
  | [] => .truncated
  | _ :: _ => .malformed

/-- A blank between the parts of a document. -/
def isBlank (c : Char) : Bool := c = ' ' || c = '\n' || c = '\t' || c = '\r'

/-- The text from its first character that is not blank. -/
def skipBlanks (s : List Char) : List Char := s.dropWhile isBlank

/-- The rest of the text after the given characters. -/
def expect : List Char → List Char → Reading (List Char)
  | [], s => .ok s
  | _ :: _, [] => .error .truncated
  | c :: word, d :: s => if c = d then expect word s else .error .malformed

/-! ## Numbers -/

/-- The value of a list of decimal digits. -/
def valueOf (digits : List Char) : Nat := Nat.ofDigitChars 10 digits 0

/-- One digit or more. -/
def readDigits (s : List Char) : Reading (List Char × List Char) :=
  match s.takeWhile Char.isDigit with
  | [] => .error (failureAt s)
  | digits => .ok (digits, s.dropWhile Char.isDigit)

/-- The integer part of a number: a single zero, or digits that begin with another one. -/
def readWhole (s : List Char) : Reading (List Char × List Char) := do
  let (digits, rest) ← readDigits s
  match digits with
  | '0' :: _ :: _ => .error .malformed
  | _ => .ok (digits, rest)

/-- The fraction of a number, if there is one. -/
def readFraction : List Char → Reading (Option (List Char) × List Char)
  | '.' :: s => do
      let (digits, rest) ← readDigits s
      .ok (some digits, rest)
  | s => .ok (none, s)

/-- The sign and the digits of an exponent. -/
def readSigned : List Char → Reading (Int × List Char)
  | '-' :: s => do
      let (digits, rest) ← readDigits s
      .ok (-(valueOf digits : Int), rest)
  | '+' :: s => do
      let (digits, rest) ← readDigits s
      .ok ((valueOf digits : Int), rest)
  | s => do
      let (digits, rest) ← readDigits s
      .ok ((valueOf digits : Int), rest)

/-- The exponent of a number, if there is one. -/
def readExponent : List Char → Reading (Option Int × List Char)
  | 'e' :: s | 'E' :: s => do
      let (e, rest) ← readSigned s
      .ok (some e, rest)
  | s => .ok (none, s)

/-- The integer with the given sign and magnitude, where it is kept exact. There is no integer
`-0`. -/
def integer? (negative : Bool) (n : Nat) : Option JsonNumber :=
  if negative then
    if n ≠ 0 ∧ JsonNumber.leastInteger ≤ -(n : Int) then some (.integer (-(n : Int))) else none
  else if (n : Int) ≤ JsonNumber.greatestInteger then some (.integer n) else none

/-- The greatest significand: `2 ^ 64 - 1`. -/
def greatestSignificand : Nat := 18446744073709551615

/-- The significand continued with the given digits, up to the first one with which it gets too
large, and the digits from that one on. -/
def takeDigits (significand : Nat) : List Char → Nat × List Char
  | [] => (significand, [])
  | c :: digits =>
      let next := significand * 10 + valueOf [c]
      if next ≤ greatestSignificand then takeDigits next digits else (significand, c :: digits)

/-- The number with the given parts. Without a fraction and an exponent it is an integer where
that is kept exact. Any other is rounded, from as many of its digits as a significand can take:
a digit left of the point that is not taken counts as a zero, and one right of the point is
ignored. One that is too large is malformed. -/
def numberOf (negative : Bool) (whole : List Char) (fraction : Option (List Char))
    (exponent : Option Int) : Reading JsonNumber :=
  let exact :=
    match fraction, exponent with
    | none, none => integer? negative (valueOf whole)
    | _, _ => none
  match exact with
  | some n => .ok n
  | none =>
      let places := fraction.getD []
      let (significand, dropped) := takeDigits 0 whole
      let (significand, ignored) := takeDigits significand places
      let taken : Nat := places.length - ignored.length
      match Binary64.ofParts negative significand (exponent.getD 0 + dropped.length - taken) with
      | some x => .ok (.float x)
      | none => .error .malformed

/-- A number after its sign. -/
def readNumber (negative : Bool) (s : List Char) : Reading (Json × List Char) := do
  let (whole, s) ← readWhole s
  let (fraction, s) ← readFraction s
  let (exponent, s) ← readExponent s
  let n ← numberOf negative whole fraction exponent
  .ok (.number n, s)

/-! ## Strings -/

/-- The number of bytes of the text in UTF-8. -/
def byteCount : List Char → Nat
  | [] => 0
  | c :: s => c.utf8Size + byteCount s

/-- A code unit of four hexadecimal digits. Fewer than four bytes of text are too few. -/
def readUnit (s : List Char) : Reading (Nat × List Char) :=
  if byteCount s < 4 then .error .truncated
  else
    match s with
    | a :: b :: c :: d :: rest =>
        match Text.hexValue? a, Text.hexValue? b, Text.hexValue? c, Text.hexValue? d with
        | some a, some b, some c, some d => .ok (((a * 16 + b) * 16 + c) * 16 + d, rest)
        | _, _, _, _ => .error .malformed
    | _ => .error .malformed

/-- A code unit that is the first half of a pair. -/
def isLeading (unit : Nat) : Bool := 0xD800 ≤ unit && unit < 0xDC00

/-- A code unit that is the second half of a pair. -/
def isTrailing (unit : Nat) : Bool := 0xDC00 ≤ unit && unit < 0xE000

/-- The character named by four digits, or by a pair of two times four. -/
def readCodePoint (s : List Char) : Reading (Char × List Char) := do
  let (unit, s) ← readUnit s
  if isTrailing unit then .error .malformed
  else if isLeading unit then
    let s ← expect ['\\', 'u'] s
    let (second, s) ← readUnit s
    if isTrailing second then
      .ok (Char.ofNat (0x10000 + (unit - 0xD800) * 0x400 + (second - 0xDC00)), s)
    else .error .malformed
  else .ok (Char.ofNat unit, s)

/-- The character named after a backslash. -/
def readEscape : List Char → Reading (Char × List Char)
  | [] => .error .truncated
  | '"' :: s => .ok ('"', s)
  | '\\' :: s => .ok ('\\', s)
  | '/' :: s => .ok ('/', s)
  | 'b' :: s => .ok ('\x08', s)
  | 'f' :: s => .ok ('\x0c', s)
  | 'n' :: s => .ok ('\n', s)
  | 'r' :: s => .ok ('\r', s)
  | 't' :: s => .ok ('\t', s)
  | 'u' :: s => readCodePoint s
  | _ :: _ => .error .malformed

/-- The characters of a string up to its closing quote, given at least as much fuel as there
are characters left. -/
def readCharsWith : Nat → List Char → Reading (List Char × List Char)
  | 0, s => .error (failureAt s)
  | _ + 1, [] => .error .truncated
  | _ + 1, '"' :: s => .ok ([], s)
  | fuel + 1, '\\' :: s => do
      let (c, s) ← readEscape s
      let (cs, s) ← readCharsWith fuel s
      .ok (c :: cs, s)
  | fuel + 1, c :: s =>
      if c.toNat < 0x20 then .error .malformed
      else do
        let (cs, s) ← readCharsWith fuel s
        .ok (c :: cs, s)

/-- A string after its opening quote. -/
def readString (s : List Char) : Reading (String × List Char) := do
  let (cs, s) ← readCharsWith s.length s
  .ok (String.ofList cs, s)

/-! ## Values -/

mutual

/-- A value. `room` is the number of containers that may still be opened around each other, and
`fuel` bounds the number of steps. -/
def readValueWith (fuel room : Nat) (s : List Char) : Reading (Json × List Char) :=
  match fuel with
  | 0 => .error .malformed
  | fuel + 1 =>
      match skipBlanks s with
      | [] => .error .truncated
      | 'n' :: s => do
          let s ← expect ['u', 'l', 'l'] s
          .ok (.null, s)
      | 't' :: s => do
          let s ← expect ['r', 'u', 'e'] s
          .ok (.bool true, s)
      | 'f' :: s => do
          let s ← expect ['a', 'l', 's', 'e'] s
          .ok (.bool false, s)
      | '"' :: s => do
          let (text, s) ← readString s
          .ok (.string text, s)
      | '-' :: s => readNumber true s
      | '[' :: s =>
          match room with
          | 0 => .error .malformed
          | room + 1 =>
              match skipBlanks s with
              | ']' :: s => .ok (.array [], s)
              | [] => .error .truncated
              | s => do
                  let (items, s) ← readItemsWith fuel room s
                  .ok (.array items, s)
      | '\x7b' :: s =>
          match room with
          | 0 => .error .malformed
          | room + 1 =>
              match skipBlanks s with
              | '\x7d' :: s => .ok (.object [], s)
              | s => do
                  let (members, s) ← readMembersWith fuel room [] s
                  .ok (.object members, s)
      | c :: s => if c.isDigit then readNumber false (c :: s) else .error .malformed

/-- One item or more of an array, and its end. -/
def readItemsWith (fuel room : Nat) (s : List Char) : Reading (List Json × List Char) :=
  match fuel with
  | 0 => .error .malformed
  | fuel + 1 => do
      let (item, s) ← readValueWith fuel room s
      match skipBlanks s with
      | ']' :: s => .ok ([item], s)
      | ',' :: s => do
          let (items, s) ← readItemsWith fuel room s
          .ok (item :: items, s)
      | s => .error (failureAt s)

/-- One member or more of an object, put after the `seen` ones, and its end. -/
def readMembersWith (fuel room : Nat) (seen : List (String × Json)) (s : List Char) :
    Reading (List (String × Json) × List Char) :=
  match fuel with
  | 0 => .error .malformed
  | fuel + 1 =>
      match skipBlanks s with
      | '"' :: s => do
          let (key, s) ← readString s
          let s ← expect [':'] (skipBlanks s)
          let (value, s) ← readValueWith fuel room s
          let seen := Entries.put key value seen
          match skipBlanks s with
          | '\x7d' :: s => .ok (seen, s)
          | ',' :: s => readMembersWith fuel room seen s
          | s => .error (failureAt s)
      | s => .error (failureAt s)

end

/-- The document in a text: one value, with nothing but blanks around it. A step of the reader
takes at least one character, or hands a value on that does, so that twice the length of the
text is fuel enough. -/
def read (text : String) : Reading Json := do
  let s := text.toList
  let (value, s) ← readValueWith (2 * s.length + 2) deepest s
  match skipBlanks s with
  | [] => .ok value
  | _ :: _ => .error .malformed

end DocumentSql.Json
