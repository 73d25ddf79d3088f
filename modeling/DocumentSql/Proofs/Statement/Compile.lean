import DocumentSql.Proofs.Result
import DocumentSql.Statement.Basic

/-!
# When a statement has a text

What has to hold for each of the four statements to have a text, and what the text is then.
-/

set_option autoImplicit false

namespace DocumentSql.Statement

/-- The condition of a statement. A new row has none. -/
def condition? : Statement → Option Condition
  | .insert _ _ => none
  | .select _ c _ _ => some c
  | .update _ c _ => some c
  | .delete _ c => some c

/-- The statement under another condition. -/
def withCondition (c : Condition) : Statement → Statement
  | .insert table row => .insert table row
  | .select table _ columns post => .select table c columns post
  | .update table _ row => .update table c row
  | .delete table _ => .delete table c

theorem guardWrite_eq_ok_iff {table : TableRef} {verb : String} {u : Unit} :
    guardWrite table verb = .ok u ↔ table.isJoined = false := by
  unfold guardWrite
  cases table.isJoined <;> simp

/-- An INSERT has a text where the table is plain and the row has a column. -/
theorem insertSql_eq_ok {table : TableRef} {row : Row} {text : String}
    (h : insertSql table row = .ok text) :
    table.isJoined = false ∧ row.entries ≠ [] ∧
      text = "INSERT INTO " ++ table.sql ++ "(" ++ Identifier.quoteList row.columns ++
        ") VALUES (" ++ Text.joinWith ", " (row.values.map Scalar.literal) ++ ")" := by
  rw [insertSql, bind_eq_ok_iff] at h
  obtain ⟨u, hguard, h⟩ := h
  by_cases hempty : row.isEmpty
  · rw [if_pos hempty] at h
    cases h
  · rw [if_neg hempty, Except.ok.injEq] at h
    exact ⟨guardWrite_eq_ok_iff.mp hguard, by simpa [Row.isEmpty] using hempty, h.symm⟩

/-- A SELECT has a text where its condition has one. -/
theorem selectSql_eq_ok {table : TableRef} {condition : Condition} {columns : List String}
    {post : PostProcess} {text : String} (h : selectSql table condition columns post = .ok text) :
    ∃ clause, condition.whereClause = .ok clause ∧
      text = assemble ["SELECT " ++ projection columns ++ " FROM " ++ table.sql, clause,
        post.sql] := by
  rw [selectSql, bind_eq_ok_iff] at h
  obtain ⟨clause, hclause, h⟩ := h
  rw [Except.ok.injEq] at h
  exact ⟨clause, ofSchema_eq_ok_iff.mp hclause, h.symm⟩

/-- **The SELECTs that have a text** are those whose condition has one. -/
theorem exists_selectSql_iff {table : TableRef} {condition : Condition} {columns : List String}
    {post : PostProcess} :
    (∃ text, selectSql table condition columns post = .ok text) ↔
      ∃ body, condition.body = .ok body := by
  rw [selectSql, exists_bind_eq_ok_iff]
  simp only [ofSchema_eq_ok_iff]
  rw [Condition.whereClause, exists_bind_eq_ok_iff]

/-- An UPDATE has a text where the table is plain, the row has a column and the condition has a
text. -/
theorem updateSql_eq_ok {table : TableRef} {condition : Condition} {row : Row} {text : String}
    (h : updateSql table condition row = .ok text) :
    table.isJoined = false ∧ row.entries ≠ [] ∧ ∃ clause, condition.whereClause = .ok clause ∧
      text = assemble ["UPDATE " ++ table.sql ++ " SET " ++
        Text.joinWith ", " (row.entries.map assignment), clause] := by
  rw [updateSql, bind_eq_ok_iff] at h
  obtain ⟨u, hguard, h⟩ := h
  by_cases hempty : row.isEmpty
  · rw [if_pos hempty] at h
    cases h
  · rw [if_neg hempty, bind_eq_ok_iff] at h
    obtain ⟨clause, hclause, h⟩ := h
    rw [Except.ok.injEq] at h
    exact ⟨guardWrite_eq_ok_iff.mp hguard, by simpa [Row.isEmpty] using hempty, clause,
      ofSchema_eq_ok_iff.mp hclause, h.symm⟩

/-- A DELETE has a text where the table is plain and the condition has a text. -/
theorem deleteSql_eq_ok {table : TableRef} {condition : Condition} {text : String}
    (h : deleteSql table condition = .ok text) :
    table.isJoined = false ∧ ∃ clause, condition.whereClause = .ok clause ∧
      text = assemble ["DELETE FROM " ++ table.sql, clause] := by
  rw [deleteSql, bind_eq_ok_iff] at h
  obtain ⟨u, hguard, h⟩ := h
  rw [bind_eq_ok_iff] at h
  obtain ⟨clause, hclause, h⟩ := h
  rw [Except.ok.injEq] at h
  exact ⟨guardWrite_eq_ok_iff.mp hguard, clause, ofSchema_eq_ok_iff.mp hclause, h.symm⟩

/-! ## The part of the condition -/

theorem selectSql_eq_map (table : TableRef) (c : Condition) (columns : List String)
    (post : PostProcess) :
    selectSql table c columns post = (QueryError.ofSchema c.whereClause).map fun clause =>
      assemble ["SELECT " ++ projection columns ++ " FROM " ++ table.sql, clause, post.sql] := by
  rw [selectSql]
  cases c.whereClause <;> rfl

theorem updateSql_eq_map {table : TableRef} (htable : table.isJoined = false) (c : Condition)
    {row : Row} (hrow : row.entries ≠ []) :
    updateSql table c row = (QueryError.ofSchema c.whereClause).map fun clause =>
      assemble ["UPDATE " ++ table.sql ++ " SET " ++
        Text.joinWith ", " (row.entries.map assignment), clause] := by
  have hguard : guardWrite table "update" = .ok () := guardWrite_eq_ok_iff.mpr htable
  have hempty : ¬ row.isEmpty := by simpa [Row.isEmpty] using hrow
  rw [updateSql, hguard]
  show (if row.isEmpty then _ else _) = _
  rw [if_neg hempty]
  cases c.whereClause <;> rfl

theorem deleteSql_eq_map {table : TableRef} (htable : table.isJoined = false) (c : Condition) :
    deleteSql table c = (QueryError.ofSchema c.whereClause).map fun clause =>
      assemble ["DELETE FROM " ++ table.sql, clause] := by
  have hguard : guardWrite table "delete from" = .ok () := guardWrite_eq_ok_iff.mpr htable
  rw [deleteSql, hguard]
  cases c.whereClause <;> rfl

/-- **The condition of a statement that has a text** is found in its WHERE clause only. -/
theorem exists_segments {s : Statement} {text : String} (h : s.compile = .ok text)
    (hs : s.condition? ≠ none) :
    ∃ head rest, head ≠ "" ∧ ∀ c, (s.withCondition c).compile =
      (QueryError.ofSchema c.whereClause).map fun clause => assemble (head :: clause :: rest) := by
  cases s with
  | insert table row => exact absurd rfl hs
  | select table condition columns post =>
      exact ⟨_, [post.sql], by simp, fun c => selectSql_eq_map table c columns post⟩
  | update table condition row =>
      obtain ⟨htable, hrow, -⟩ := updateSql_eq_ok h
      exact ⟨_, [], by simp, fun c => updateSql_eq_map htable c hrow⟩
  | delete table condition =>
      obtain ⟨htable, -⟩ := deleteSql_eq_ok h
      exact ⟨_, [], by simp, fun c => deleteSql_eq_map htable c⟩

end DocumentSql.Statement
