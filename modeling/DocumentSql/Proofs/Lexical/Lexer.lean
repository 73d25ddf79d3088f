import Mathlib.Data.List.Chain

/-!
# The lexical rules of statements

How the text of a statement is cut into tokens: blanks, names between backticks, strings between
quotes, signed numbers, words, and signs. In a string a backslash takes the next character with
it, and in a string or a name a doubled mark stays inside. Comments are not part of a statement:
a text in which one opens outside of strings and names has no tokens, and neither has a text
that ends inside of a string or a name.

* `eq_of_scan`: a token is cut off the front of a text, and it has at least one character.
-/

set_option autoImplicit false

namespace DocumentSql.Lexical

/-- A token, with its characters as they stand in the text. -/
inductive Token where
  /-- A blank character. -/
  | blank (c : Char)
  /-- A name, without the backticks around it. -/
  | name (content : String)
  /-- A string, without the marks around it. -/
  | string (mark : Char) (content : String)
  /-- A number with its sign. -/
  | number (text : String)
  | word (text : String)
  | sign (text : String)
deriving DecidableEq

/-- The character around a name. -/
def backtick : Char := '\x60'

namespace Token

/-- The characters of a token. -/
def text : Token → List Char
  | .blank c => [c]
  | .name content => backtick :: (content.toList ++ [backtick])
  | .string mark content => mark :: (content.toList ++ [mark])
  | .number text => text.toList
  | .word text => text.toList
  | .sign text => text.toList

@[simp] theorem text_number (s : String) : (number s).text = s.toList := rfl

@[simp] theorem text_word (s : String) : (word s).text = s.toList := rfl

@[simp] theorem text_sign (s : String) : (sign s).text = s.toList := rfl

/-- The token only keeps others apart. -/
def isBlank : Token → Bool
  | .blank _ => true
  | _ => false

@[simp] theorem isBlank_name (s : String) : (name s).isBlank = false := by
  simp [isBlank]

@[simp] theorem isBlank_number (s : String) : (number s).isBlank = false := by
  simp [isBlank]

@[simp] theorem isBlank_word (s : String) : (word s).isBlank = false := by
  simp [isBlank]

@[simp] theorem isBlank_sign (s : String) : (sign s).isBlank = false := by
  simp [isBlank]

/-- The token stands for a value: a string, a number or the word for nothing. -/
def isLiteral : Token → Bool
  | .string _ _ => true
  | .number _ => true
  | .word text => text.toList.map Char.toUpper = "NULL".toList
  | _ => false

end Token

/-- The text of tokens one after the other. -/
def spell (ts : List Token) : List Char := ts.flatMap Token.text

@[simp] theorem spell_nil : spell [] = [] := rfl

@[simp] theorem spell_cons (t : Token) (ts : List Token) :
    spell (t :: ts) = t.text ++ spell ts := by
  simp [spell]

@[simp] theorem spell_append (ts us : List Token) : spell (ts ++ us) = spell ts ++ spell us := by
  simp [spell]

/-! ## Characters -/

/-- A blank character: a space or a control character that moves the writing position. -/
def isSpace (c : Char) : Bool := c = ' ' || (9 ≤ c.toNat && c.toNat ≤ 13)

/-- A character of a word. -/
def isWordChar (c : Char) : Bool := c.isAlphanum || c = '_' || c = '$' || 0x80 ≤ c.toNat

/-- A comment opens here. -/
def opensComment : List Char → Bool
  | '#' :: _ => true
  | '-' :: '-' :: _ => true
  | '/' :: '*' :: _ => true
  | _ => false

/-- The signs of more than one character; a longer one stands before its beginnings. -/
def compoundSigns : List (List Char) :=
  ["<=>", "<=", ">=", "!=", "<>", "<<", ">>", "||", "&&", ":="].map String.toList

/-! ## Strings and names -/

/-- The characters up to the closing mark, and what follows the mark. A doubled mark stays
inside; so does what follows a backslash, where backslashes escape. -/
def scanQuoted (escapes : Bool) (mark : Char) : List Char → Option (List Char × List Char)
  | [] => none
  | [c] => if c = mark then some ([], []) else none
  | c :: d :: cs =>
      if c = mark then
        if d = mark then
          (scanQuoted escapes mark cs).map fun found => (c :: d :: found.1, found.2)
        else some ([], d :: cs)
      else if escapes && c = '\\' then
        (scanQuoted escapes mark cs).map fun found => (c :: d :: found.1, found.2)
      else (scanQuoted escapes mark (d :: cs)).map fun found => (c :: found.1, found.2)

theorem eq_of_scanQuoted {escapes : Bool} {mark : Char} {cs content rest : List Char}
    (h : scanQuoted escapes mark cs = some (content, rest)) :
    cs = content ++ mark :: rest := by
  fun_induction scanQuoted escapes mark cs generalizing content rest with
  | case1 => simp at h
  | case2 =>
      simp only [Option.some.injEq, Prod.mk.injEq] at h
      obtain ⟨rfl, rfl⟩ := h
      rfl
  | case3 c hc => simp at h
  | case4 cs ih =>
      -- a doubled mark, which stays inside
      obtain ⟨⟨content', rest'⟩, h', heq⟩ := Option.map_eq_some_iff.mp h
      cases heq
      rw [ih h']
      rfl
  | case5 d cs hd =>
      -- the mark that closes
      simp only [Option.some.injEq, Prod.mk.injEq] at h
      obtain ⟨rfl, rfl⟩ := h
      rfl
  | case6 c d cs hc hb ih =>
      -- a backslash, which takes `d` along
      obtain ⟨⟨content', rest'⟩, h', heq⟩ := Option.map_eq_some_iff.mp h
      cases heq
      rw [ih h']
      rfl
  | case7 c d cs hc hb ih =>
      obtain ⟨⟨content', rest'⟩, h', heq⟩ := Option.map_eq_some_iff.mp h
      cases heq
      rw [ih h']
      rfl

/-! ## Numbers -/

/-- The digits at the beginning, and what follows them. -/
def scanDigits (cs : List Char) : List Char × List Char :=
  (cs.takeWhile Char.isDigit, cs.dropWhile Char.isDigit)

/-- The sign at the beginning, if there is one, and what follows. -/
def scanSign : List Char → List Char × List Char
  | '-' :: cs => (['-'], cs)
  | '+' :: cs => (['+'], cs)
  | cs => ([], cs)

/-- The point at the beginning with its digits, if there is one, and what follows. -/
def scanFraction : List Char → List Char × List Char
  | '.' :: cs => ('.' :: (scanDigits cs).1, (scanDigits cs).2)
  | cs => ([], cs)

/-- The exponent at the beginning, if there is one with digits, and what follows. -/
def scanExponent : List Char → List Char × List Char
  | [] => ([], [])
  | c :: cs =>
      let (sign, digits) := scanSign cs
      if (c = 'e' || c = 'E') && !(scanDigits digits).1.isEmpty then
        (c :: (sign ++ (scanDigits digits).1), (scanDigits digits).2)
      else ([], c :: cs)

/-- The number at the beginning, and what follows it. A word may not go on with the digits. -/
def scanNumber (cs : List Char) : Option (List Char × List Char) :=
  let (sign, cs) := scanSign cs
  let (whole, cs) := scanDigits cs
  let (fraction, cs) := scanFraction cs
  let (exponent, rest) := scanExponent cs
  if whole.isEmpty || rest.head?.any isWordChar then none
  else some (sign ++ whole ++ fraction ++ exponent, rest)

/-- A number begins here: a digit, or a sign in front of one. -/
def beginsNumber (c : Char) (cs : List Char) : Bool :=
  c.isDigit || ((c = '-' || c = '+') && cs.head?.any Char.isDigit)

theorem scanDigits_append (cs : List Char) : (scanDigits cs).1 ++ (scanDigits cs).2 = cs :=
  List.takeWhile_append_dropWhile

theorem scanSign_append (cs : List Char) : (scanSign cs).1 ++ (scanSign cs).2 = cs := by
  unfold scanSign
  split <;> rfl

theorem scanFraction_append (cs : List Char) :
    (scanFraction cs).1 ++ (scanFraction cs).2 = cs := by
  unfold scanFraction
  split
  · next cs => simp [scanDigits_append cs]
  · rfl

theorem scanExponent_append (cs : List Char) :
    (scanExponent cs).1 ++ (scanExponent cs).2 = cs := by
  unfold scanExponent
  split
  · rfl
  · next c cs =>
      have hsign := scanSign_append cs
      have hdigits := scanDigits_append (scanSign cs).2
      simp only
      split
      · rw [List.cons_append, List.append_assoc, hdigits, hsign]
      · rfl

theorem eq_of_scanNumber {cs text rest : List Char} (h : scanNumber cs = some (text, rest)) :
    cs = text ++ rest ∧ text ≠ [] := by
  simp only [scanNumber] at h
  split at h
  · cases h
  · next hwhole =>
      simp only [Option.some.injEq, Prod.mk.injEq] at h
      obtain ⟨rfl, rfl⟩ := h
      constructor
      · rw [List.append_assoc, scanExponent_append, List.append_assoc, scanFraction_append,
          List.append_assoc, scanDigits_append, scanSign_append]
      · intro hnil
        simp only [List.append_eq_nil_iff] at hnil
        simp [hnil.1.1.2] at hwhole

/-! ## Tokens -/

/-- The sign at the beginning, and what follows it. -/
def scanMark (c : Char) (cs : List Char) : Token × List Char :=
  match compoundSigns.find? fun sign => sign.isPrefixOf (c :: cs) with
  | some sign => (.sign (String.ofList sign), (c :: cs).drop sign.length)
  | none => (.sign (String.ofList [c]), cs)

/-- The token at the beginning, and what follows it. -/
def scan (c : Char) (cs : List Char) : Option (Token × List Char) :=
  if isSpace c then some (.blank c, cs)
  else if opensComment (c :: cs) then none
  else if c = backtick then
    (scanQuoted false backtick cs).map fun found => (.name (String.ofList found.1), found.2)
  else if c = '"' || c = '\x27' then
    (scanQuoted true c cs).map fun found => (.string c (String.ofList found.1), found.2)
  else if beginsNumber c cs then
    (scanNumber (c :: cs)).map fun found => (.number (String.ofList found.1), found.2)
  else if isWordChar c then
    some (.word (String.ofList (c :: cs.takeWhile isWordChar)), cs.dropWhile isWordChar)
  else some (scanMark c cs)

theorem eq_of_scanMark (c : Char) (cs : List Char) :
    c :: cs = (scanMark c cs).1.text ++ (scanMark c cs).2 ∧ (scanMark c cs).1.text ≠ [] := by
  unfold scanMark
  split
  · next sign h =>
      have hsign : sign.isPrefixOf (c :: cs) := by simpa using List.find?_some h
      obtain ⟨rest, hrest⟩ := List.isPrefixOf_iff_prefix.mp hsign
      have hne : ∀ sign ∈ compoundSigns, sign ≠ [] := by decide
      refine ⟨by simp [Token.text, ← hrest], ?_⟩
      simpa [Token.text] using hne sign (List.mem_of_find?_eq_some h)
  · simp [Token.text]

/-- **A token is the beginning of the text.** -/
theorem eq_of_scan {c : Char} {cs : List Char} {t : Token} {rest : List Char}
    (h : scan c cs = some (t, rest)) : c :: cs = t.text ++ rest ∧ t.text ≠ [] := by
  unfold scan at h
  split at h
  · cases h
    simp [Token.text]
  split at h
  · cases h
  split at h
  · next hc =>
      obtain ⟨⟨content, rest'⟩, h', heq⟩ := Option.map_eq_some_iff.mp h
      cases heq
      rw [eq_of_scanQuoted h', hc]
      simp [Token.text]
  split at h
  · obtain ⟨⟨content, rest'⟩, h', heq⟩ := Option.map_eq_some_iff.mp h
    cases heq
    rw [eq_of_scanQuoted h']
    simp [Token.text]
  split at h
  · obtain ⟨⟨text, rest'⟩, h', heq⟩ := Option.map_eq_some_iff.mp h
    cases heq
    simpa [Token.text] using eq_of_scanNumber h'
  split at h
  · cases h
    simp [Token.text, List.takeWhile_append_dropWhile]
  · simp only [Option.some.injEq] at h
    simpa [h] using eq_of_scanMark c cs

theorem length_of_scan {c : Char} {cs : List Char} {t : Token} {rest : List Char}
    (h : scan c cs = some (t, rest)) : rest.length < (c :: cs).length := by
  obtain ⟨heq, hne⟩ := eq_of_scan h
  have hpos : 0 < t.text.length := List.length_pos_iff.mpr hne
  rw [heq, List.length_append]
  omega

/-- The tokens of a text; none where it is no sequence of them. -/
def lex : List Char → Option (List Token)
  | [] => some []
  | c :: cs =>
      match _h : scan c cs with
      | none => none
      | some (t, rest) => (lex rest).map (t :: ·)
termination_by cs => cs.length
decreasing_by exact length_of_scan _h

@[simp] theorem lex_nil : lex [] = some [] := by
  rw [lex]

theorem lex_cons {c : Char} {cs : List Char} {t : Token} {rest : List Char}
    (h : scan c cs = some (t, rest)) : lex (c :: cs) = (lex rest).map (t :: ·) := by
  rw [lex]
  split
  · next h' => simp [h] at h'
  · next t' rest' h' =>
      rw [h] at h'
      cases h'
      rfl

/-- The tokens that are not blank. -/
def significant (ts : List Token) : List Token := ts.filter fun t => !t.isBlank

@[simp] theorem significant_append (ts us : List Token) :
    significant (ts ++ us) = significant ts ++ significant us := by
  simp [significant]

@[simp] theorem significant_nil : significant [] = [] := rfl

@[simp] theorem significant_blank (c : Char) (ts : List Token) :
    significant (.blank c :: ts) = significant ts := rfl

@[simp] theorem significant_cons {t : Token} (h : t.isBlank = false) (ts : List Token) :
    significant (t :: ts) = t :: significant ts := by
  simp [significant, h]

end DocumentSql.Lexical
