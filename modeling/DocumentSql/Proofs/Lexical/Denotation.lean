import DocumentSql.Proofs.Lexical.Literal

/-!
# What a string literal denotes

Literals are written with the escapes of JSON, and the server reads them with its own: it knows
fewer letters after a backslash, it has no spelling of a character by its digits, and it reads a
backslash before any other character as that character. The two agree on all characters but
some below U+0020: a form feed comes back as the letter `f`, and a control character that is
written with four digits comes back as the letter `u` and its digits.

* `denotation?_literal`: what the literal of a text denotes.
* `literal_denotes_text_iff`: the texts that come back as they are.
-/

set_option autoImplicit false

namespace DocumentSql

namespace Lexical

/-! ## The rules of the server -/

/-- What a backslash and the character after it stand for. Before the wildcards of a pattern the
backslash stays. -/
def unescape : Char → List Char
  | '0' => ['\x00']
  | 'b' => ['\x08']
  | 'n' => ['\n']
  | 'r' => ['\r']
  | 't' => ['\t']
  | 'Z' => ['\x1a']
  | '%' => ['\\', '%']
  | '_' => ['\\', '_']
  | c => [c]

/-- What the characters between two marks stand for; a doubled mark stands for one. -/
def denoted (mark : Char) : List Char → List Char
  | [] => []
  | [c] => [c]
  | c :: d :: cs =>
      if c = '\\' then unescape d ++ denoted mark cs
      else if c = mark ∧ d = mark then mark :: denoted mark cs
      else c :: denoted mark (d :: cs)

/-- The text that a string literal denotes, if the whole of `cs` is one. -/
def denotation? (cs : List Char) : Option (List Char) :=
  match lex cs with
  | some [.string mark content] => some (denoted mark content.toList)
  | _ => none

theorem denoted_escaped (mark c : Char) (cs : List Char) :
    denoted mark ('\\' :: c :: cs) = unescape c ++ denoted mark cs := by
  rw [denoted, if_pos rfl]

theorem denoted_cons {mark c : Char} (hmark : c ≠ mark) (hslash : c ≠ '\\') (cs : List Char) :
    denoted mark (c :: cs) = c :: denoted mark cs := by
  cases cs with
  | nil => rfl
  | cons d cs =>
      have hdoubled : ¬ (c = mark ∧ d = mark) := fun h => hmark h.1
      rw [denoted, if_neg hslash, if_neg hdoubled]

theorem denoted_append {mark : Char} {as : List Char} (has : ∀ c ∈ as, c ≠ mark ∧ c ≠ '\\')
    (bs : List Char) : denoted mark (as ++ bs) = as ++ denoted mark bs := by
  induction as with
  | nil => rfl
  | cons c as ih =>
      have hc := has c List.mem_cons_self
      have hrest := ih fun d hd => has d (List.mem_cons_of_mem c hd)
      rw [List.cons_append, denoted_cons hc.1 hc.2, hrest, List.cons_append]

end Lexical

open Lexical

/-! ## From the escapes of JSON to those of the server -/

namespace Text

/-- The characters below U+0020 that both read alike. -/
def sharedControls : List Char := ['\x08', '\t', '\n', '\r']

/-- What is left of a character that was written and read back. -/
def restored (c : Char) : List Char :=
  if c.toNat < 0x20 ∧ c ∉ sharedControls then
    if c = '\x0c' then ['f'] else 'u' :: fourHexDigits c.toNat
  else [c]

theorem restored_eq_self {c : Char} (h : c.toNat < 0x20 → c ∈ sharedControls) :
    restored c = [c] := by
  have hshared : ¬ (c.toNat < 0x20 ∧ c ∉ sharedControls) := fun hc => hc.2 (h hc.1)
  rw [restored, if_neg hshared]

theorem mem_fourHexDigits {d : Char} {n : Nat} (h : d ∈ fourHexDigits n) :
    d ≠ '"' ∧ d ≠ '\\' ∧ 0x20 ≤ d.toNat := by
  have hdigit : ∀ k : Fin 16, Nat.digitChar k ≠ '"' ∧ Nat.digitChar k ≠ '\\' ∧
      0x20 ≤ (Nat.digitChar k).toNat := by decide
  rw [fourHexDigits, List.mem_map] at h
  obtain ⟨k, -, rfl⟩ := h
  exact hdigit ⟨k % 16, Nat.mod_lt k (by decide)⟩

/-- No control character comes back that is not shared. -/
theorem shared_of_mem_restored {c d : Char} (h : d ∈ restored c) :
    d.toNat < 0x20 → d ∈ sharedControls := by
  intro hlow
  rw [restored] at h
  split at h
  · split at h
    · rw [List.mem_singleton] at h
      subst h
      exact absurd hlow (by decide)
    · rcases List.mem_cons.mp h with rfl | h
      · exact absurd hlow (by decide)
      · have hhigh := (mem_fourHexDigits h).2.2
        omega
  · next hc =>
      rw [List.mem_singleton] at h
      subst h
      by_contra hshared
      exact hc ⟨hlow, hshared⟩

theorem denoted_escapeChar (c : Char) (cs : List Char) :
    denoted '"' (escapeChar c ++ cs) = restored c ++ denoted '"' cs := by
  rcases escapeChar_cases c with ⟨letter, hmem, hc⟩ | ⟨hlow, hc⟩ | ⟨hquote, hslash, hhigh, hc⟩
  · -- a letter of its own, which the server knows unless it is that of the form feed
    have hletter : ∀ entry ∈ shortEscapes, unescape entry.1 = restored entry.2 := by decide
    rw [hc, List.cons_append, List.singleton_append, denoted_escaped, hletter _ hmem]
  · have hplain : ∀ d ∈ fourHexDigits c.toNat, d ≠ '"' ∧ d ≠ '\\' := by
      intro d hd
      have h := mem_fourHexDigits hd
      exact ⟨h.1, h.2.1⟩
    have hrestored : restored c = 'u' :: fourHexDigits c.toNat := by
      -- no character with a letter of its own is written with digits
      have hletter : ∀ d ∈ '\x0c' :: sharedControls, (escapeChar d).length = 2 := by
        intro d hd
        simp only [sharedControls, List.mem_cons, List.not_mem_nil, or_false] at hd
        rcases hd with rfl | rfl | rfl | rfl | rfl <;> rfl
      have hlength : (escapeChar c).length = 6 := by rw [hc]; rfl
      have hne : c ∉ '\x0c' :: sharedControls := by
        intro hmem
        have := hletter c hmem
        omega
      rw [List.mem_cons, not_or] at hne
      rw [restored, if_pos ⟨hlow, hne.2⟩, if_neg hne.1]
    rw [hc, List.cons_append, List.cons_append, denoted_escaped, denoted_append hplain, hrestored]
    rfl
  · have hrestored : restored c = [c] := restored_eq_self fun hlow => by omega
    rw [hc, hrestored, List.singleton_append, List.singleton_append, denoted_cons hquote hslash]

theorem denoted_escape (cs : List Char) : denoted '"' (escape cs) = cs.flatMap restored := by
  induction cs with
  | nil => rfl
  | cons c cs ih =>
      have hcons : escape (c :: cs) = escapeChar c ++ escape cs := rfl
      rw [hcons, denoted_escapeChar, ih, List.flatMap_cons]

end Text

/-- **What the literal of a text denotes:** the text, character by character as it comes back. -/
theorem denotation?_literal (s : String) :
    denotation? (Scalar.string s).literal.toList = some (s.toList.flatMap Text.restored) := by
  have hlex := lex_spell (Scalar.string s).isValid_token.readable
  have hspell : spell [(Scalar.string s).token] = (Scalar.string s).literal.toList := by
    rw [spell_cons, spell_nil, List.append_nil, Scalar.text_token]
  rw [hspell] at hlex
  simp [denotation?, hlex, Scalar.token, Text.denoted_escape]

/-- **A literal denotes its text** exactly where the text has no character below U+0020 besides
the backspace, the tabulator, the line feed and the carriage return. -/
theorem literal_denotes_text_iff (s : String) :
    denotation? (Scalar.string s).literal.toList = some s.toList ↔
      ∀ c ∈ s.toList, c.toNat < 0x20 → c ∈ ['\x08', '\t', '\n', '\r'] := by
  rw [denotation?_literal, Option.some_inj]
  constructor
  · -- what comes back has shared control characters only
    intro h c hc
    rw [← h, List.mem_flatMap] at hc
    obtain ⟨d, -, hcd⟩ := hc
    exact Text.shared_of_mem_restored hcd
  · intro h
    calc s.toList.flatMap Text.restored
        = s.toList.flatMap fun c => [c] :=
          List.flatMap_congr fun c hc => Text.restored_eq_self (h c hc)
      _ = s.toList := by simp

/-- A form feed comes back as a letter, so that not every literal denotes its text. -/
theorem literal_of_formFeed_denotes_letter :
    denotation? (Scalar.string "\x0c").literal.toList = some ['f'] ∧
      ¬ ∀ s : String, denotation? (Scalar.string s).literal.toList = some s.toList := by
  have hfeed : denotation? (Scalar.string "\x0c").literal.toList = some ['f'] := by
    rw [denotation?_literal]
    rfl
  refine ⟨hfeed, ?_⟩
  intro h
  have hsame := (h "\x0c").symm.trans hfeed
  exact absurd hsame (by decide)

end DocumentSql
