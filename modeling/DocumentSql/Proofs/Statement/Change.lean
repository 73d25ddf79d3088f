import DocumentSql.Proofs.Condition.Filter
import DocumentSql.Proofs.Condition.Reading
import DocumentSql.Proofs.Statement.Tokens

/-!
# Changes of rows and their filters

An UPDATE and a DELETE say what happens, and then to which rows. The first part, the head, does
not depend on the condition. The second is a WHERE clause with the text of the condition, and it
is missing only where the condition constrains nothing.

* `Change.compile_eq_head_iff`: when all rows of the table are changed.
* `Change.compile_of_not_isVacuous`: what the statement is otherwise.
-/

set_option autoImplicit false

namespace DocumentSql

/-- A change of rows of a table: their removal, or new values in at least one column. -/
inductive Change where
  | delete (table : String)
  | update (table : String) (row : Row) (assigns : row.entries ≠ [])

namespace Change

/-- The statement that makes the change in the rows under a condition. -/
def statement : Change → Condition → Statement
  | .delete table, c => .delete (.plain table) c
  | .update table row _, c => .update (.plain table) c row

/-- What the statement says in front of its condition. -/
def head : Change → String
  | .delete table => "DELETE FROM " ++ Identifier.quote table
  | .update table row _ =>
      "UPDATE " ++ Identifier.quote table ++ " SET " ++
        Text.joinWith ", " (row.entries.map Statement.assignment)

theorem head_ne_empty (change : Change) : change.head ≠ "" := by
  have hfirst : change.head.toList ≠ [] := by
    cases change <;> simp [head]
  intro h
  exact hfirst (by rw [h]; rfl)

theorem compile_statement (change : Change) (c : Condition) :
    (change.statement c).compile =
      (QueryError.ofSchema c.whereClause).map fun clause =>
        Statement.assemble [change.head, clause] := by
  cases change with
  | delete table => exact Statement.deleteSql_eq_map rfl c
  | update table row assigns => exact Statement.updateSql_eq_map rfl c assigns

theorem assemble_empty (change : Change) : Statement.assemble [change.head, ""] = change.head := by
  rw [← String.toList_inj, Statement.toList_assemble change.head_ne_empty]
  simp [Statement.segmentText]

theorem assemble_where (change : Change) (body : String) :
    Statement.assemble [change.head, "WHERE " ++ body] = change.head ++ " WHERE " ++ body := by
  have hclause : "WHERE " ++ body ≠ "" := by
    intro h
    have hlength := congrArg String.length h
    simp at hlength
  rw [← String.toList_inj, Statement.toList_assemble change.head_ne_empty]
  simp [Statement.segmentText, hclause]

/-- The statement is the head, and the text of the condition if that is not empty. -/
theorem compile_of_body (change : Change) {c : Condition} {text : String}
    (h : c.body = .ok text) :
    (change.statement c).compile =
      .ok (if text = "" then change.head else change.head ++ " WHERE " ++ text) := by
  have hclause := Condition.whereClause_eq_ok_iff.mpr ⟨text, h, rfl⟩
  rw [compile_statement, hclause]
  by_cases hempty : text = ""
  · simp [hempty, QueryError.ofSchema, Except.map, assemble_empty]
  · simp [hempty, QueryError.ofSchema, Except.map, assemble_where]

theorem compile_of_body_error (change : Change) {c : Condition} {fault : SchemaFault}
    (h : c.body = .error fault) : (change.statement c).compile = .error (.schema fault) := by
  rw [compile_statement, Condition.whereClause, h]
  rfl

/-- **All rows are changed** exactly when the condition constrains nothing. -/
theorem compile_eq_head_iff (change : Change) (c : Condition) :
    (change.statement c).compile = .ok change.head ↔ c.IsVacuous := by
  cases hbody : c.body with
  | error fault =>
      rw [compile_of_body_error change hbody]
      constructor
      · intro h
        cases h
      · -- a condition that constrains nothing has a text
        rintro (rfl | rfl) <;> cases hbody
  | ok text =>
      rw [compile_of_body change hbody, ← Condition.text_eq_empty_iff hbody]
      by_cases hempty : text = ""
      · simp [hempty]
      · rw [if_neg hempty, iff_false_right hempty, Except.ok.injEq]
        intro h
        have hlength := congrArg String.length h
        have hword : " WHERE ".length = 7 := rfl
        rw [String.length_append, String.length_append] at hlength
        omega

/-- **A condition that constrains something** is what the statement says behind WHERE, or there is
no statement. -/
theorem compile_of_not_isVacuous (change : Change) {c : Condition} (h : ¬ c.IsVacuous) :
    (∃ body, body ≠ "" ∧ (change.statement c).compile = .ok (change.head ++ " WHERE " ++ body) ∧
      c.leaves ≠ [] ∧ c.IsSaidBy body) ∨
    ∃ fault, (change.statement c).compile = .error (.schema fault) := by
  cases hbody : c.body with
  | error fault => exact .inr ⟨fault, compile_of_body_error change hbody⟩
  | ok text =>
      have hne : text ≠ "" := fun hempty => h ((Condition.text_eq_empty_iff hbody).mp hempty)
      refine .inl ⟨text, hne, ?_, Condition.leaves_ne_nil hbody hne,
        Condition.isSaidBy_of_body hbody hne⟩
      rw [compile_of_body change hbody, if_neg hne]

end Change

end DocumentSql
