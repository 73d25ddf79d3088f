import DocumentSql.Proofs.Json.Strings
import DocumentSql.Proofs.Lexical.Spelling
import DocumentSql.Scalar

/-!
# The literals of values

The literal of a value is a single token, and it tells the value: a string literal is read back
by the rules of JSON, a number literal is told by its text.

* `Scalar.text_token`: the token of a value spells its literal.
* `Literal.ofToken?_token`: the token of a value is read back as the value.
-/

set_option autoImplicit false

namespace DocumentSql

open Lexical

/-- A value as far as a text can tell it: numbers with the same text are the same. -/
inductive Literal where
  | null
  | number (text : String)
  | string (s : String)
deriving DecidableEq

/-- The value as its literal tells it. -/
def Scalar.written : Scalar → Literal
  | .null => .null
  | .number n => .number n.write
  | .string s => .string s

/-- The token that a literal is. -/
def Scalar.token : Scalar → Token
  | .null => .word "NULL"
  | .number n => .number n.write
  | .string s => .string '"' (String.ofList (Text.escape s.toList))

namespace Literal

/-- What stands between two quotes, read with the escapes of JSON. -/
def unescape? (content : String) : Option String :=
  match Json.readString (content.toList ++ ['"']) with
  | .ok (s, []) => some s
  | _ => none

/-- The value that a token stands for. -/
def ofToken? : Token → Option Literal
  | .word text => if text = "NULL" then some .null else none
  | .number text => some (.number text)
  | .string '"' content => (unescape? content).map .string
  | _ => none

end Literal

/-! ## Numbers -/

namespace NumberLayout

variable {digits : List Char}

theorem exists_spelling_positional (negative : Bool) (hne : digits ≠ [])
    (hdigits : ∀ c ∈ digits, c.isDigit) (e : Int) :
    ∃ n : NumberSpelling, n.text = (if negative then ['-'] else []) ++ positional digits e := by
  by_cases he : e < 0
  · rw [positional, if_pos he]
    refine ⟨⟨negative, ['0'], '.' :: (List.replicate (-e - 1).toNat '0' ++ digits), [],
      by simp, by simp, .inr ⟨_, rfl, ?_⟩, .inl rfl⟩, by simp [NumberSpelling.text]⟩
    intro c hc
    rcases List.mem_append.mp hc with hc | hc
    · rw [List.eq_of_mem_replicate hc]
      rfl
    · exact hdigits c hc
  · rw [positional, if_neg he]
    by_cases hlen : digits.length ≤ e.toNat + 1
    -- zeros fill up the whole part, and the fraction is a zero
    · rw [if_pos hlen]
      refine ⟨⟨negative, digits ++ List.replicate (e.toNat + 1 - digits.length) '0', ['.', '0'], [],
        by simp [hne], ?_, .inr ⟨['0'], rfl, by simp⟩, .inl rfl⟩, by simp [NumberSpelling.text]⟩
      intro c hc
      rcases List.mem_append.mp hc with hc | hc
      · exact hdigits c hc
      · rw [List.eq_of_mem_replicate hc]
        rfl
    · rw [if_neg hlen]
      refine ⟨⟨negative, digits.take (e.toNat + 1), '.' :: digits.drop (e.toNat + 1), [],
        by simp [hne], fun c hc => hdigits c (List.mem_of_mem_take hc),
        .inr ⟨_, rfl, fun c hc => hdigits c (List.mem_of_mem_drop hc)⟩, .inl rfl⟩,
        by simp [NumberSpelling.text]⟩

theorem exists_spelling_scientific (negative : Bool) (hne : digits ≠ [])
    (hdigits : ∀ c ∈ digits, c.isDigit) (e : Int) :
    ∃ n : NumberSpelling, n.text = (if negative then ['-'] else []) ++ scientific digits e := by
  have hexponent : ∀ c ∈ Nat.toDigits 10 e.natAbs, c.isDigit := fun c hc =>
    Nat.isDigit_of_mem_toDigits (by decide) (by decide) hc
  refine ⟨⟨negative, digits.take 1, if digits.length ≤ 1 then [] else '.' :: digits.drop 1,
    'e' :: (if e < 0 then '-' else '+') :: Nat.toDigits 10 e.natAbs, by simp [hne],
    fun c hc => hdigits c (List.mem_of_mem_take hc), ?_,
    .inr ⟨_, _, rfl, ?_, Nat.toDigits_ne_nil, hexponent⟩⟩, ?_⟩
  · split
    · exact .inl rfl
    · exact .inr ⟨_, rfl, fun c hc => hdigits c (List.mem_of_mem_drop hc)⟩
  · split
    · exact .inr rfl
    · exact .inl rfl
  · simp [NumberSpelling.text, scientific]

theorem exists_spelling_magnitude (negative : Bool) (layout : NumberLayout) (d : Decimal) :
    ∃ n : NumberSpelling, n.text = (if negative then ['-'] else []) ++ layout.magnitude d := by
  have hdigits : ∀ c ∈ Nat.toDigits 10 d.digits, c.isDigit := fun c hc =>
    Nat.isDigit_of_mem_toDigits (by decide) (by decide) hc
  rw [magnitude]
  by_cases h : layout.least ≤ d.exponent + (Nat.toDigits 10 d.digits).length - 1 ∧
      d.exponent + (Nat.toDigits 10 d.digits).length - 1 ≤ layout.greatest
  · rw [if_pos h]
    exact exists_spelling_positional negative Nat.toDigits_ne_nil hdigits _
  · rw [if_neg h]
    exact exists_spelling_scientific negative Nat.toDigits_ne_nil hdigits _

end NumberLayout

/-- **A number of a document is written as a number of a statement.** -/
theorem JsonNumber.exists_spelling (n : JsonNumber) :
    ∃ s : NumberSpelling, n.write.toList = s.text := by
  have hdigits : ∀ m, ∀ c ∈ Nat.toDigits 10 m, c.isDigit := fun m c hc =>
    Nat.isDigit_of_mem_toDigits (by decide) (by decide) hc
  cases n with
  | integer n =>
      rw [write, Int.toString_eq_repr, Int.repr_eq_if]
      split
      · exact ⟨⟨false, Nat.toDigits 10 n.toNat, [], [], Nat.toDigits_ne_nil, hdigits _, .inl rfl,
          .inl rfl⟩, by simp [NumberSpelling.text]⟩
      · exact ⟨⟨true, Nat.toDigits 10 (-n).toNat, [], [], Nat.toDigits_ne_nil, hdigits _, .inl rfl,
          .inl rfl⟩, by simp [NumberSpelling.text]⟩
  | float x =>
      obtain ⟨s, hs⟩ := NumberLayout.exists_spelling_magnitude x.negative layout x.shortest
      exact ⟨s, by rw [write, String.toList_ofList, hs, NumberLayout.write]⟩

/-! ## Strings -/

namespace Text

/-- The characters that are written as a backslash and a letter of their own, after their
letter. -/
def shortEscapes : List (Char × Char) :=
  [('"', '"'), ('\\', '\\'), ('n', '\n'), ('r', '\r'), ('t', '\t'), ('b', '\x08'), ('f', '\x0c')]

/-- The three ways in which a character is written. -/
theorem escapeChar_cases (c : Char) :
    (∃ letter, (letter, c) ∈ shortEscapes ∧ escapeChar c = ['\\', letter]) ∨
    (c.toNat < 0x20 ∧ escapeChar c = '\\' :: 'u' :: fourHexDigits c.toNat) ∨
    (c ≠ '"' ∧ c ≠ '\\' ∧ 0x20 ≤ c.toNat ∧ escapeChar c = [c]) := by
  -- `escapeChar` asks for the characters with a letter of their own first
  by_cases hshort : ∃ letter, (letter, c) ∈ shortEscapes
  · obtain ⟨letter, hmem⟩ := hshort
    have hwritten : ∀ entry ∈ shortEscapes, escapeChar entry.2 = ['\\', entry.1] := by decide
    exact .inl ⟨letter, hmem, hwritten _ hmem⟩
  · have hne : ∀ entry ∈ shortEscapes, c ≠ entry.2 := by
      rintro ⟨letter, d⟩ hmem rfl
      exact hshort ⟨letter, hmem⟩
    simp only [shortEscapes, List.forall_mem_cons, List.not_mem_nil, false_imp_iff,
      implies_true, and_true] at hne
    obtain ⟨hquote, hslash, hn, hr, ht, hb, hf⟩ := hne
    refine .inr ?_
    rw [escapeChar, if_neg hquote, if_neg hslash, if_neg hn, if_neg hr, if_neg ht, if_neg hb,
      if_neg hf]
    by_cases hlow : c.toNat < 0x20
    · exact .inl ⟨hlow, by rw [if_pos hlow]⟩
    · exact .inr ⟨hquote, hslash, by omega, by rw [if_neg hlow]⟩

theorem sealed_digitChar (n : Nat) : Sealed '"' [Nat.digitChar (n % 16)] := by
  have hdigit : ∀ k : Fin 16, Nat.digitChar k ≠ '"' ∧ Nat.digitChar k ≠ '\\' := by decide
  have h := hdigit ⟨n % 16, Nat.mod_lt n (by decide)⟩
  exact sealed_singleton h.1 h.2

theorem sealed_escapeChar (c : Char) : Sealed '"' (escapeChar c) := by
  have hslash : '\\' ≠ '"' := by decide
  rcases escapeChar_cases c with ⟨letter, -, h⟩ | ⟨-, h⟩ | ⟨hquote, hescape, -, h⟩
  · rw [h]
    exact sealed_escaped hslash letter
  · rw [h]
    exact (sealed_escaped hslash 'u').append ((sealed_digitChar _).append
      ((sealed_digitChar _).append ((sealed_digitChar _).append (sealed_digitChar _))))
  · rw [h]
    exact sealed_singleton hquote hescape

/-- **No character of a string ends its literal.** -/
theorem sealed_escape (cs : List Char) : Sealed '"' (escape cs) := by
  induction cs with
  | nil => exact sealed_nil _
  | cons c cs ih => exact (sealed_escapeChar c).append ih

end Text

namespace Json

open Text

theorem fourDigits_fourHexDigits {n : Nat} (h : n < 65536) : FourDigits (fourHexDigits n) n := by
  have hvalue : ∀ k, hexValue? (Nat.digitChar (k % 16)) = some (k % 16) := fun k =>
    hexValue?_digitChar (Nat.mod_lt k (by decide))
  have hn : ((n / 4096 % 16 * 16 + n / 256 % 16) * 16 + n / 16 % 16) * 16 + n % 16 = n := by
    omega
  have hdigits : FourDigits (fourHexDigits n) _ :=
    .mk (hvalue (n / 4096)) (hvalue (n / 256)) (hvalue (n / 16)) (hvalue n)
  rwa [hn] at hdigits

/-- A character is spelled as it is written. -/
theorem spellsChar_escapeChar (c : Char) : SpellsChar (escapeChar c) c := by
  rcases escapeChar_cases c with ⟨letter, hmem, h⟩ | ⟨hlow, h⟩ | ⟨hquote, hslash, hcontrol, h⟩
  · have hshort : ∀ entry ∈ shortEscapes, entry ∈ escapes := by decide
    rw [h]
    exact .escaped (.letter (hshort _ hmem))
  · rw [h]
    exact .escaped (.number (fourDigits_fourHexDigits (by omega)))
  · rw [h]
    exact .plain hquote hslash hcontrol

theorem spellsText_escape (cs : List Char) : SpellsText (escape cs) cs := by
  induction cs with
  | nil => exact .nil
  | cons c cs ih => exact .cons (spellsChar_escapeChar c) ih

/-- **The JSON reader undoes the writer of literals.** -/
theorem readString_escape (cs rest : List Char) :
    readString (escape cs ++ '"' :: rest) = .ok (String.ofList cs, rest) := by
  refine readString_eq_ok_iff.mpr ⟨escape cs, rfl, ?_⟩
  rw [String.toList_ofList]
  exact spellsText_escape cs

end Json

/-! ## Tokens -/

namespace Scalar

theorem text_token (v : Scalar) : v.token.text = v.literal.toList := by
  cases v with
  | null => rfl
  | number n => rfl
  | string s => simp [token, Token.text, literal, Text.toList_quoted]

theorem isValid_token (v : Scalar) : v.token.IsValid := by
  cases v with
  | null => exact Token.isValid_word (by decide) (by decide)
  | number n => exact n.exists_spelling
  | string s =>
      refine ⟨.inl rfl, ?_⟩
      rw [String.toList_ofList]
      exact Text.sealed_escape s.toList

theorem isLiteral_token (v : Scalar) : v.token.isLiteral = true := by
  cases v with
  | null => decide
  | number n => rfl
  | string s => rfl

end Scalar

/-- **A value is told by its token.** -/
theorem Literal.ofToken?_token (v : Scalar) : ofToken? v.token = some v.written := by
  cases v with
  | null => rfl
  | number n => rfl
  | string s =>
      simp [Scalar.token, ofToken?, unescape?, Json.readString_escape, Scalar.written]

end DocumentSql
