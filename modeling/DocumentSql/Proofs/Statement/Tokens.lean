import DocumentSql.Proofs.Condition.Tokens
import DocumentSql.Proofs.Statement.Compile

/-!
# The tokens of a statement

A statement is a list of clauses: each is a word with what belongs to it. Its text is spelled by
the tokens of its clauses, with spaces between them. The tokens are defined on the statement, and
for names without a backtick the text is cut into them again.

* `Statement.toList_of_compile`: the text of a statement is spelled by its tokens.
* `Statement.readable_tokens`: the tokens of a statement can be read back.
-/

set_option autoImplicit false

namespace DocumentSql

open Lexical

/-! ## Clauses -/

/-- A clause of a statement: a word, and the tokens that belong to it. -/
structure Clause where
  word : String
  body : List Token
deriving DecidableEq

namespace Clause

/-- The tokens of a clause. -/
def tokens (clause : Clause) : List Token :=
  .word clause.word :: if clause.body = [] then [] else .space :: clause.body

/-- The tokens of further clauses, each after a space. -/
def trail (clauses : List Clause) : List Token :=
  clauses.flatMap fun clause => .space :: clause.tokens

/-- The tokens of clauses one after the other. -/
def joined : List Clause → List Token
  | [] => []
  | clause :: clauses => clause.tokens ++ trail clauses

theorem spell_joined_cons_cons (first second : Clause) (clauses : List Clause) :
    spell (joined (first :: second :: clauses)) =
      spell (joined [first, second]) ++ spell (trail clauses) := by
  simp [joined, trail]

theorem joined_eq_intercalate (clauses : List Clause) :
    joined clauses = [Token.space].intercalate (clauses.map tokens) := by
  cases clauses with
  | nil => rfl
  | cons clause clauses =>
      rw [List.map_cons, intercalate_cons_eq_flatMap, List.flatMap_map]
      rfl

theorem spell_joined (clauses : List Clause) :
    spell (joined clauses) = [' '].intercalate (clauses.map fun clause => spell clause.tokens) := by
  rw [joined_eq_intercalate, spell_intercalate, List.map_map]
  rfl

/-- The clause can be read back. -/
def IsReadable (clause : Clause) : Prop :=
  (Token.word clause.word).IsValid ∧ Readable clause.body

theorem trail_append (cs ds : List Clause) : trail (cs ++ ds) = trail cs ++ trail ds :=
  List.flatMap_append

theorem tokens_of_body_ne_nil {clause : Clause} (h : clause.body ≠ []) :
    clause.tokens = .word clause.word :: .space :: clause.body := by
  rw [tokens, if_neg h]

theorem IsReadable.tokens {clause : Clause} (h : clause.IsReadable) : Readable clause.tokens := by
  unfold Clause.tokens
  by_cases hbody : clause.body = []
  · rw [if_pos hbody]
    exact h.1.readable
  · rw [if_neg hbody]
    exact h.1.readable.append_separator isSeparator_space h.2

theorem readable_joined {clauses : List Clause} (h : ∀ clause ∈ clauses, clause.IsReadable) :
    Readable (joined clauses) := by
  rw [joined_eq_intercalate]
  refine readable_intercalate isSeparator_space (List.forall_mem_map.mpr ?_)
  intro clause hclause
  exact (h clause hclause).tokens

end Clause

/-! ## Tables -/

/-- The tokens of a column with the table it belongs to. -/
def qualifiedTokens (column : String × String) : List Token :=
  [.name column.1, .sign ".", .name column.2]

theorem toList_quoteQualified (column : String × String) :
    (Identifier.quoteQualified column.1 column.2).toList = spell (qualifiedTokens column) := by
  simp [Identifier.quoteQualified, qualifiedTokens, Identifier.toList_quote]

theorem readable_qualifiedTokens {column : String × String} (htable : Identifier.IsPlain column.1)
    (hcolumn : Identifier.IsPlain column.2) : Readable (qualifiedTokens column) := by
  have hdot : (Token.sign ".").IsValid := by simp [Token.IsValid, plainSigns]
  refine ⟨?_, ?_⟩
  · simp only [qualifiedTokens, List.forall_mem_cons, List.not_mem_nil, false_imp_iff,
      implies_true, and_true]
    exact ⟨htable.isValid, hdot, hcolumn.isValid⟩
  · -- the point ends the table's name, and is ended by the column's
    have hname : (Token.name column.1).Apart (.sign ".") := by
      simp [Token.Apart, Token.EndsBefore, backtick]
    have hsign : (Token.sign ".").Apart (.name column.2) := by
      simp [Token.Apart, Token.EndsBefore, closedSigns]
    simp [qualifiedTokens, hname, hsign]

namespace TableRef

/-- The tokens of a table. -/
def tokens : TableRef → List Token
  | .plain name => [.name name]
  | .natural left right =>
      left.tokens ++ (spaced [.word "NATURAL", .word "JOIN"] ++ right.tokens)
  | .equality left right first second =>
      left.tokens ++ (spaced [.word "JOIN"] ++ (right.tokens ++ (spaced [.word "ON"] ++
        (qualifiedTokens first ++ (spaced [.sign "="] ++ qualifiedTokens second)))))

/-- The names in a table: those of tables, and those of the columns they are joined on. -/
def names : TableRef → List String
  | .plain name => [name]
  | .natural left right => left.names ++ right.names
  | .equality left right first second =>
      left.names ++ right.names ++ [first.1, first.2, second.1, second.2]

theorem tokens_ne_nil (table : TableRef) : table.tokens ≠ [] := by
  cases table <;> simp [tokens, spaced]

theorem toList_sql (table : TableRef) : table.sql.toList = spell table.tokens := by
  induction table with
  | plain name => simp [sql, tokens, Identifier.toList_quote]
  | natural left right ihleft ihright => simp [sql, tokens, ihleft, ihright, spaced]
  | equality left right first second ihleft ihright =>
      simp [sql, tokens, ihleft, ihright, spaced, toList_quoteQualified]

theorem readable_tokens {table : TableRef} (h : ∀ name ∈ table.names, Identifier.IsPlain name) :
    Readable table.tokens := by
  have hnatural : IsSeparator (spaced [.word "NATURAL", .word "JOIN"]) :=
    isSeparator_words ["NATURAL", "JOIN"] (by decide)
  have hjoin : IsSeparator (spaced [.word "JOIN"]) := isSeparator_words ["JOIN"] (by decide)
  have hon : IsSeparator (spaced [.word "ON"]) := isSeparator_words ["ON"] (by decide)
  induction table with
  | plain name => exact (h name (by simp [names])).isValid.readable
  | natural left right ihleft ihright =>
      have hleft := ihleft fun n hn => h n (by simp [names, hn])
      have hright := ihright fun n hn => h n (by simp [names, hn])
      exact hleft.append_separator hnatural hright
  | equality left right first second ihleft ihright =>
      have hleft := ihleft fun n hn => h n (by simp [names, hn])
      have hright := ihright fun n hn => h n (by simp [names, hn])
      have hfirst : Readable (qualifiedTokens first) :=
        readable_qualifiedTokens (h _ (by simp [names])) (h _ (by simp [names]))
      have hsecond : Readable (qualifiedTokens second) :=
        readable_qualifiedTokens (h _ (by simp [names])) (h _ (by simp [names]))
      exact hleft.append_separator hjoin (hright.append_separator hon
        (hfirst.append_separator isSeparator_equals hsecond))

end TableRef

/-! ## Lists of columns and values -/

/-- The tokens of a list of names. -/
def nameTokens (names : List String) : List Token := commaList (names.map fun name => [.name name])

theorem nameTokens_ne_nil {names : List String} (h : names ≠ []) : nameTokens names ≠ [] := by
  obtain ⟨name, rest, rfl⟩ := List.exists_cons_of_ne_nil h
  exact commaList_ne_nil (List.cons_ne_nil _ _) _

theorem toList_quoteList (names : List String) :
    (Identifier.quoteList names).toList = spell (nameTokens names) := by
  refine toList_joinWith_comma ?_
  simp [Identifier.toList_quote]

theorem readable_nameTokens {names : List String} (h : ∀ name ∈ names, Identifier.IsPlain name) :
    Readable (nameTokens names) := by
  refine readable_commaList (List.forall_mem_map.mpr ?_)
  intro name hname
  exact (h name hname).isValid.readable

/-- The tokens of a list of values. -/
def valueTokens (values : List Scalar) : List Token :=
  commaList (values.map fun value => [value.token])

theorem toList_joinWith_literal (values : List Scalar) :
    (Text.joinWith ", " (values.map Scalar.literal)).toList = spell (valueTokens values) := by
  refine toList_joinWith_comma ?_
  simp [Scalar.text_token]

theorem readable_valueTokens (values : List Scalar) : Readable (valueTokens values) := by
  refine readable_commaList (List.forall_mem_map.mpr ?_)
  intro value _
  exact value.isValid_token.readable

/-- The tokens of a column with its new value. -/
def assignmentTokens (entry : String × Scalar) : List Token :=
  .name entry.1 :: (spaced [.sign "="] ++ [entry.2.token])

theorem toList_assignment (entry : String × Scalar) :
    (Statement.assignment entry).toList = spell (assignmentTokens entry) := by
  simp [Statement.assignment, assignmentTokens, Identifier.toList_quote, Scalar.text_token, spaced]

theorem readable_assignmentTokens {entry : String × Scalar} (h : Identifier.IsPlain entry.1) :
    Readable (assignmentTokens entry) := by
  exact h.isValid.readable.append_separator isSeparator_equals entry.2.isValid_token.readable

/-! ## Directives -/

namespace PostProcess

/-- The tokens of a sort column with its direction. -/
def sortTokens (entry : String × SortDirection) : List Token :=
  [.name entry.1, .space, .word entry.2.sql]

/-- The clause of the sort columns. -/
def orderClause (columns : List (String × SortDirection)) : Clause :=
  ⟨"ORDER", .word "BY" :: .space :: commaList (columns.map sortTokens)⟩

/-- The clause of a number. -/
def countClause (word : String) (n : Nat) : Clause := ⟨word, [.number (toString n)]⟩

/-- The clauses of directives. -/
def clauseList (p : PostProcess) : List Clause :=
  (if p.sort = [] then [] else [orderClause p.sort]) ++
    (p.limit.toList.map (countClause "LIMIT") ++ p.offset.toList.map (countClause "OFFSET"))

theorem toList_sortColumn (entry : String × SortDirection) :
    (sortColumn entry).toList = spell (sortTokens entry) := by
  simp [sortColumn, sortTokens, Identifier.toList_quote]

theorem readable_sortTokens {entry : String × SortDirection} (h : Identifier.IsPlain entry.1) :
    Readable (sortTokens entry) := by
  have hword : Readable [Token.word entry.2.sql] := by
    refine Token.IsValid.readable ?_
    cases entry.2 <;> exact Token.isValid_word (by decide) (by decide)
  exact h.isValid.readable.append_separator isSeparator_space hword

theorem isValid_number (n : Nat) : (Token.number (toString n)).IsValid :=
  (JsonNumber.integer n).exists_spelling

theorem isReadable_countClause {word : String} (h : (Token.word word).IsValid) (n : Nat) :
    (countClause word n).IsReadable :=
  ⟨h, (isValid_number n).readable⟩

theorem isReadable_orderClause {columns : List (String × SortDirection)}
    (h : ∀ entry ∈ columns, Identifier.IsPlain entry.1) : (orderClause columns).IsReadable := by
  have horder : (Token.word "ORDER").IsValid := Token.isValid_word (by decide) (by decide)
  have hby : (Token.word "BY").IsValid := Token.isValid_word (by decide) (by decide)
  have hcolumns : Readable (commaList (columns.map sortTokens)) := by
    refine readable_commaList (List.forall_mem_map.mpr ?_)
    intro entry hentry
    exact readable_sortTokens (h entry hentry)
  exact ⟨horder, hby.readable.append_separator isSeparator_space hcolumns⟩

/-- The clauses there may be. -/
theorem mem_clauseList {p : PostProcess} {clause : Clause} (h : clause ∈ p.clauseList) :
    (p.sort ≠ [] ∧ clause = orderClause p.sort) ∨
      ∃ n, clause = countClause "LIMIT" n ∨ clause = countClause "OFFSET" n := by
  rcases List.mem_append.mp h with hsort | hcounts
  · by_cases hnil : p.sort = []
    · simp [hnil] at hsort
    · rw [if_neg hnil, List.mem_singleton] at hsort
      exact .inl ⟨hnil, hsort⟩
  · rcases List.mem_append.mp hcounts with hn | hn
    · obtain ⟨n, -, rfl⟩ := List.mem_map.mp hn
      exact .inr ⟨n, .inl rfl⟩
    · obtain ⟨n, -, rfl⟩ := List.mem_map.mp hn
      exact .inr ⟨n, .inr rfl⟩

theorem isReadable_clauseList {p : PostProcess}
    (h : ∀ entry ∈ p.sort, Identifier.IsPlain entry.1) :
    ∀ clause ∈ p.clauseList, clause.IsReadable := by
  have hlimit : (Token.word "LIMIT").IsValid := Token.isValid_word (by decide) (by decide)
  have hoffset : (Token.word "OFFSET").IsValid := Token.isValid_word (by decide) (by decide)
  intro clause hclause
  rcases mem_clauseList hclause with ⟨-, rfl⟩ | ⟨n, rfl | rfl⟩
  · exact isReadable_orderClause h
  · exact isReadable_countClause hlimit n
  · exact isReadable_countClause hoffset n

theorem map_toList_clauses (p : PostProcess) :
    p.clauses.map String.toList = p.clauseList.map fun clause => spell clause.tokens := by
  have hsort : (Text.joinWith ", " (p.sort.map sortColumn)).toList =
      spell (commaList (p.sort.map sortTokens)) := by
    refine toList_joinWith_comma ?_
    simp [toList_sortColumn]
  by_cases hnil : p.sort = []
  · simp [clauses, clauseList, hnil, countClause, Clause.tokens, Function.comp_def]
  · simp [clauses, clauseList, hnil, orderClause, countClause, Clause.tokens, hsort,
      Function.comp_def]

/-- **The text of directives is spelled by their clauses.** -/
theorem toList_sql (p : PostProcess) : p.sql.toList = spell (Clause.joined p.clauseList) := by
  rw [sql, toList_joinWith, map_toList_clauses, Clause.spell_joined]
  rfl

end PostProcess

/-! ## Statements -/

namespace Statement

/-- The WHERE clause of a condition, if the condition has a text. -/
def filterClauses (c : Condition) : List Clause :=
  if c.tokens = [] then [] else [⟨"WHERE", c.tokens⟩]

/-- The tokens of the columns of a SELECT. -/
def projectionTokens (columns : List String) : List Token :=
  if columns = [] then [.sign "*"] else nameTokens columns

/-- The clauses of a statement. -/
def clauses : Statement → List Clause
  | .insert table row =>
      [⟨"INSERT", .word "INTO" :: .space ::
          (table.tokens ++ parenthesized (nameTokens row.columns))⟩,
        ⟨"VALUES", parenthesized (valueTokens row.values)⟩]
  | .select table condition columns post =>
      ⟨"SELECT", projectionTokens columns⟩ :: ⟨"FROM", table.tokens⟩ ::
        (filterClauses condition ++ post.clauseList)
  | .update table condition row =>
      ⟨"UPDATE", table.tokens⟩ :: ⟨"SET", commaList (row.entries.map assignmentTokens)⟩ ::
        filterClauses condition
  | .delete table condition =>
      ⟨"DELETE", []⟩ :: ⟨"FROM", table.tokens⟩ :: filterClauses condition

/-- The tokens of a statement. -/
def tokens (s : Statement) : List Token := Clause.joined s.clauses

/-- The names in a statement. -/
def names : Statement → List String
  | .insert table row => table.names ++ row.columns
  | .select table condition columns post =>
      table.names ++ condition.leaves.map Leaf.column ++ columns ++ post.sort.map Prod.fst
  | .update table condition row =>
      table.names ++ condition.leaves.map Leaf.column ++ row.columns
  | .delete table condition => table.names ++ condition.leaves.map Leaf.column

/-! ## Texts -/

/-- A segment of a statement with the space in front of it; nothing when it is empty. -/
def segmentText (segment : String) : List Char :=
  if segment = "" then [] else ' ' :: segment.toList

theorem toList_assemble {head : String} (h : head ≠ "") (rest : List String) :
    (assemble (head :: rest)).toList = head.toList ++ rest.flatMap segmentText := by
  have hhead : (!head.isEmpty) = true := by simpa using h
  rw [assemble, List.filter_cons, if_pos hhead, toList_joinWith, List.map_cons,
    intercalate_cons_eq_flatMap]
  congr 1
  induction rest with
  | nil => rfl
  | cons segment rest ih =>
      -- an empty segment is left out, together with its space
      by_cases hempty : segment = ""
      · simpa [hempty, segmentText] using ih
      · simpa [hempty, segmentText] using ih

/-- A segment that is spelled by clauses is spelled by them behind other clauses, too. -/
theorem segmentText_eq_spell {segment : String} {clauses : List Clause}
    (h : segment.toList = spell (Clause.joined clauses))
    (hword : ∀ clause ∈ clauses, (Token.word clause.word).IsValid) :
    segmentText segment = spell (Clause.trail clauses) := by
  cases clauses with
  | nil =>
      have hempty : segment = "" := by simpa [Clause.joined] using h
      rw [hempty]
      rfl
  | cons clause clauses =>
      have hne : segment ≠ "" := by
        rintro rfl
        have hvalid := (hword clause List.mem_cons_self).text_ne_nil
        have hnil := h.symm
        simp only [Clause.joined, Clause.tokens, List.cons_append, spell_cons] at hnil
        exact hvalid (List.append_eq_nil_iff.mp hnil).1
      rw [segmentText, if_neg hne, h]
      simp [Clause.joined, Clause.trail]

theorem isReadable_filterClauses {c : Condition}
    (h : ∀ l ∈ c.leaves, Identifier.IsPlain l.column) :
    ∀ clause ∈ filterClauses c, clause.IsReadable := by
  unfold filterClauses
  by_cases hnil : c.tokens = []
  · simp [hnil]
  · rw [if_neg hnil, List.forall_mem_singleton]
    have hwhere : (Token.word "WHERE").IsValid := Token.isValid_word (by decide) (by decide)
    exact ⟨hwhere, Condition.readable_tokens h⟩

/-- **The text of a WHERE clause is spelled by its clause.** -/
theorem segmentText_whereClause {c : Condition} {text : String}
    (h : ∀ l ∈ c.leaves, Identifier.IsPlain l.column) (htext : c.whereClause = .ok text) :
    segmentText text = spell (Clause.trail (filterClauses c)) := by
  obtain ⟨body, hbody, rfl⟩ := Condition.whereClause_eq_ok_iff.mp htext
  have hspell := Condition.toList_of_bodyAt hbody
  have hnil := Condition.tokens_eq_nil_iff h hbody
  refine segmentText_eq_spell ?_ fun clause hclause => (isReadable_filterClauses h clause hclause).1
  by_cases hempty : body = ""
  · simp [hempty, filterClauses, hnil.mpr hempty, Clause.joined]
  · have hne : c.tokens ≠ [] := fun htokens => hempty (hnil.mp htokens)
    simp [hempty, filterClauses, hne, Clause.joined, Clause.trail, Clause.tokens, hspell]

theorem segmentText_postProcess {p : PostProcess}
    (h : ∀ entry ∈ p.sort, Identifier.IsPlain entry.1) :
    segmentText p.sql = spell (Clause.trail p.clauseList) :=
  segmentText_eq_spell p.toList_sql fun clause hclause =>
    (PostProcess.isReadable_clauseList h clause hclause).1

theorem toList_projection (columns : List String) :
    (projection columns).toList = spell (projectionTokens columns) := by
  unfold projection projectionTokens
  by_cases hnil : columns = []
  · simp [hnil]
  · rw [if_neg (by simpa using hnil), if_neg hnil]
    exact toList_quoteList columns

theorem projectionTokens_ne_nil (columns : List String) : projectionTokens columns ≠ [] := by
  unfold projectionTokens
  by_cases hnil : columns = []
  · simp [hnil]
  · rw [if_neg hnil]
    exact nameTokens_ne_nil hnil

theorem readable_projectionTokens {columns : List String}
    (h : ∀ name ∈ columns, Identifier.IsPlain name) : Readable (projectionTokens columns) := by
  unfold projectionTokens
  by_cases hnil : columns = []
  · rw [if_pos hnil]
    exact Token.IsValid.readable (by simp [Token.IsValid, plainSigns])
  · rw [if_neg hnil]
    exact readable_nameTokens h

theorem toList_joinWith_assignment (entries : List (String × Scalar)) :
    (Text.joinWith ", " (entries.map assignment)).toList =
      spell (commaList (entries.map assignmentTokens)) := by
  refine toList_joinWith_comma ?_
  simp [toList_assignment]

/-- **The text of a statement is spelled by its tokens.** -/
theorem toList_of_compile {s : Statement} {text : String} (h : s.compile = .ok text)
    (hplain : ∀ name ∈ s.names, Identifier.IsPlain name) : text.toList = spell s.tokens := by
  cases s with
  | insert table row =>
      obtain ⟨-, -, rfl⟩ := insertSql_eq_ok h
      simp [tokens, clauses, Clause.joined, Clause.trail, Clause.tokens, parenthesized,
        TableRef.toList_sql, toList_quoteList, toList_joinWith_literal]
  | select table condition columns post =>
      obtain ⟨clause, hclause, rfl⟩ := selectSql_eq_ok h
      simp only [names, List.forall_mem_append, List.forall_mem_map] at hplain
      obtain ⟨⟨⟨-, hcondition⟩, -⟩, hsort⟩ := hplain
      -- the first two clauses are written in one piece, and are never empty
      have hhead : ("SELECT " ++ projection columns ++ " FROM " ++ table.sql).toList =
          spell (Clause.joined [⟨"SELECT", projectionTokens columns⟩, ⟨"FROM", table.tokens⟩]) := by
        simp [Clause.joined, Clause.trail, Clause.tokens_of_body_ne_nil, projectionTokens_ne_nil,
          TableRef.tokens_ne_nil, toList_projection, TableRef.toList_sql]
      rw [toList_assemble (by simp), hhead, List.flatMap_cons, List.flatMap_singleton,
        segmentText_whereClause hcondition hclause, segmentText_postProcess hsort, ← spell_append,
        ← Clause.trail_append]
      exact (Clause.spell_joined_cons_cons _ _ _).symm
  | update table condition row =>
      obtain ⟨-, hrow, clause, hclause, rfl⟩ := updateSql_eq_ok h
      simp only [names, List.forall_mem_append, List.forall_mem_map] at hplain
      obtain ⟨⟨-, hcondition⟩, -⟩ := hplain
      have hne : commaList (row.entries.map assignmentTokens) ≠ [] := by
        obtain ⟨entry, rest, hentries⟩ := List.exists_cons_of_ne_nil hrow
        rw [hentries]
        exact commaList_ne_nil (List.cons_ne_nil _ _) _
      have hhead : ("UPDATE " ++ table.sql ++ " SET " ++
            Text.joinWith ", " (row.entries.map assignment)).toList =
          spell (Clause.joined [⟨"UPDATE", table.tokens⟩,
            ⟨"SET", commaList (row.entries.map assignmentTokens)⟩]) := by
        simp [Clause.joined, Clause.trail, Clause.tokens_of_body_ne_nil, hne,
          TableRef.tokens_ne_nil, toList_joinWith_assignment, TableRef.toList_sql]
      rw [toList_assemble (by simp), hhead, List.flatMap_singleton,
        segmentText_whereClause hcondition hclause]
      exact (Clause.spell_joined_cons_cons _ _ _).symm
  | delete table condition =>
      obtain ⟨-, clause, hclause, rfl⟩ := deleteSql_eq_ok h
      simp only [names, List.forall_mem_append, List.forall_mem_map] at hplain
      obtain ⟨-, hcondition⟩ := hplain
      have hhead : ("DELETE FROM " ++ table.sql).toList =
          spell (Clause.joined [⟨"DELETE", []⟩, ⟨"FROM", table.tokens⟩]) := by
        simp [Clause.joined, Clause.trail, Clause.tokens, TableRef.tokens_ne_nil,
          TableRef.toList_sql]
      rw [toList_assemble (by simp), hhead, List.flatMap_singleton,
        segmentText_whereClause hcondition hclause]
      exact (Clause.spell_joined_cons_cons _ _ _).symm

/-- **The tokens of a statement can be read back,** whatever its values are. -/
theorem readable_tokens {s : Statement} (hplain : ∀ name ∈ s.names, Identifier.IsPlain name) :
    Readable s.tokens := by
  have hword : ∀ w ∈ ["INSERT", "INTO", "VALUES", "SELECT", "FROM", "UPDATE", "SET", "DELETE"],
      (Token.word w).IsValid := by
    have hupper : ∀ w ∈ ["INSERT", "INTO", "VALUES", "SELECT", "FROM", "UPDATE", "SET", "DELETE"],
        w.toList ≠ [] ∧ w.toList.all Char.isUpper = true := by decide
    exact fun w hw => Token.isValid_word (hupper w hw).1 (hupper w hw).2
  refine Clause.readable_joined ?_
  cases s with
  | insert table row =>
      simp only [names, List.forall_mem_append] at hplain
      -- the parenthesis keeps the columns apart from the table
      have htarget : Readable (table.tokens ++ parenthesized (nameTokens row.columns)) := by
        refine (TableRef.readable_tokens hplain.1).append
          (readable_nameTokens hplain.2).parenthesized (.inr ?_)
        simpa [parenthesized] using Token.isDelimiter_leftParen
      have hinto := (hword "INTO" (by simp)).readable.append_separator isSeparator_space htarget
      have hvalues := (readable_valueTokens row.values).parenthesized
      simp only [clauses, List.forall_mem_cons, List.not_mem_nil, false_imp_iff, implies_true,
        and_true]
      exact ⟨⟨hword _ (by simp), hinto⟩, ⟨hword _ (by simp), hvalues⟩⟩
  | select table condition columns post =>
      simp only [names, List.forall_mem_append, List.forall_mem_map] at hplain
      obtain ⟨⟨⟨htable, hcondition⟩, hcolumns⟩, hsort⟩ := hplain
      simp only [clauses, List.forall_mem_cons, List.forall_mem_append]
      exact ⟨⟨hword _ (by simp), readable_projectionTokens hcolumns⟩,
        ⟨hword _ (by simp), TableRef.readable_tokens htable⟩,
        isReadable_filterClauses hcondition, PostProcess.isReadable_clauseList hsort⟩
  | update table condition row =>
      simp only [names, List.forall_mem_append, List.forall_mem_map] at hplain
      obtain ⟨⟨htable, hcondition⟩, hcolumns⟩ := hplain
      have hassignments : Readable (commaList (row.entries.map assignmentTokens)) := by
        refine readable_commaList (List.forall_mem_map.mpr ?_)
        intro entry hentry
        exact readable_assignmentTokens (hcolumns _ (List.mem_map_of_mem hentry))
      simp only [clauses, List.forall_mem_cons]
      exact ⟨⟨hword _ (by simp), TableRef.readable_tokens htable⟩,
        ⟨hword _ (by simp), hassignments⟩, isReadable_filterClauses hcondition⟩
  | delete table condition =>
      simp only [names, List.forall_mem_append, List.forall_mem_map] at hplain
      obtain ⟨htable, hcondition⟩ := hplain
      simp only [clauses, List.forall_mem_cons]
      exact ⟨⟨hword _ (by simp), readable_nil⟩,
        ⟨hword _ (by simp), TableRef.readable_tokens htable⟩, isReadable_filterClauses hcondition⟩

/-- **A text of a statement is cut into the tokens of the statement.** -/
theorem lex_of_compile {s : Statement} {text : String} (h : s.compile = .ok text)
    (hplain : ∀ name ∈ s.names, Identifier.IsPlain name) : lex text.toList = some s.tokens := by
  rw [toList_of_compile h hplain, lex_spell (readable_tokens hplain)]

end Statement

end DocumentSql
