import DocumentSql.Proofs.Statement.Tokens
import DocumentSql.Statement.Kind

/-!
# The kind of a statement is told by its text

Neither a blank nor a parenthesis is a letter, so that the keyword of a text that begins with a
letter is its first word. The text of a statement begins with the word of its kind.

* `StatementKind.ofSql_of_compile`: the text of a statement has the kind of the statement.
-/

set_option autoImplicit false

namespace DocumentSql.StatementKind

/-- No letter is passed over before the keyword. -/
theorem isLead_of_isLetter {c : Char} (h : isLetter c = true) : isLead c = false := by
  have hcode : (65 ≤ c.toNat ∧ c.toNat ≤ 90) ∨ (97 ≤ c.toNat ∧ c.toNat ≤ 122) := by
    rcases Bool.or_eq_true_iff.mp h with hupper | hlower
    · have hrange : 'A'.val ≤ c.val ∧ c.val ≤ 'Z'.val := of_decide_eq_true hupper
      exact .inl ⟨UInt32.le_iff_toNat_le.mp hrange.1, UInt32.le_iff_toNat_le.mp hrange.2⟩
    · obtain ⟨hfirst, hlast⟩ := Bool.and_eq_true_iff.mp hlower
      have hrange : 'a'.val ≤ c.val ∧ c.val ≤ 'z'.val :=
        ⟨of_decide_eq_true hfirst, of_decide_eq_true hlast⟩
      exact .inr ⟨UInt32.le_iff_toNat_le.mp hrange.1, UInt32.le_iff_toNat_le.mp hrange.2⟩
  have hblank : Text.isBlank c = false := by
    simp only [Text.isBlank, Text.blankRanges, List.any_cons, List.any_nil, Bool.or_false,
      Bool.or_eq_false_iff, Bool.and_eq_false_iff, decide_eq_false_iff_not]
    omega
  have hparen : c ≠ '(' := by
    rintro rfl
    exact absurd hcode (by decide)
  simp [isLead, hblank, hparen]

/-- The keyword of a text that begins with a word of letters. -/
theorem keyword_append {word rest : List Char} (hne : word ≠ []) (hword : ∀ c ∈ word, isLetter c)
    (hrest : ∀ c ∈ rest.head?, isLetter c = false) :
    keyword (word ++ rest) = word.map Char.toUpper := by
  obtain ⟨c, cs, rfl⟩ := List.exists_cons_of_ne_nil hne
  have hlead : isLead c = false := isLead_of_isLetter (hword c List.mem_cons_self)
  have hskip : (c :: cs ++ rest).dropWhile isLead = c :: cs ++ rest := by
    rw [List.cons_append, List.dropWhile_cons_of_neg (by simp [hlead])]
  rw [keyword, hskip, (Lexical.span_append hword hrest).1]

/-- The words that statements begin with. -/
def words : List (List Char) := ["SELECT", "INSERT", "UPDATE", "DELETE"].map String.toList

theorem ofSql_of_word {text : String} {word rest : List Char} (hword : word ∈ words)
    (htext : text.toList = word ++ ' ' :: rest) : ofSql text = ofKeyword word := by
  have hwords : ∀ w ∈ words, w ≠ [] ∧ w.all isLetter ∧ w.map Char.toUpper = w := by decide
  obtain ⟨hne, hletters, hupper⟩ := hwords word hword
  rw [ofSql, htext, keyword_append hne (List.all_eq_true.mp hletters) (by simp [isLetter]),
    hupper]

/-- **The text of a statement has the kind of the statement.** -/
theorem ofSql_of_compile {s : Statement} {text : String} (h : s.compile = .ok text) :
    ofSql text = s.kind := by
  cases s with
  | insert table row =>
      obtain ⟨-, -, rfl⟩ := Statement.insertSql_eq_ok h
      have hword : "INSERT".toList ∈ words := by decide
      exact ofSql_of_word hword (by simp; rfl)
  | select table condition columns post =>
      obtain ⟨clause, -, rfl⟩ := Statement.selectSql_eq_ok h
      have hword : "SELECT".toList ∈ words := by decide
      exact ofSql_of_word hword (by rw [Statement.toList_assemble (by simp)]; simp; rfl)
  | update table condition row =>
      obtain ⟨-, -, clause, -, rfl⟩ := Statement.updateSql_eq_ok h
      have hword : "UPDATE".toList ∈ words := by decide
      exact ofSql_of_word hword (by rw [Statement.toList_assemble (by simp)]; simp; rfl)
  | delete table condition =>
      obtain ⟨-, clause, -, rfl⟩ := Statement.deleteSql_eq_ok h
      have hword : "DELETE".toList ∈ words := by decide
      exact ofSql_of_word hword (by rw [Statement.toList_assemble (by simp)]; simp; rfl)

end DocumentSql.StatementKind
