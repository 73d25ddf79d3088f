import DocumentSql.Proofs.Statement.Cutting

/-!
# The text of a statement tells what the statement says

A statement that has a text is told by it: the reader of messages finds in the text the kind of
the statement, its table with the joins in order, the columns, the values each with its column,
the text of the condition, and the directives.

* `Statement.message_of_compile`: the text of a statement is read as what the statement says.
-/

set_option autoImplicit false

namespace DocumentSql

open Lexical

namespace Message

/-! ## Lists -/

theorem mapM_eq_some_map {α β : Type} {f : α → Option β} {g : α → β} {xs : List α}
    (h : ∀ x ∈ xs, f x = some (g x)) : xs.mapM f = some (xs.map g) := by
  induction xs with
  | nil => rfl
  | cons x xs ih =>
      have hx := h x List.mem_cons_self
      have hxs := ih fun y hy => h y (List.mem_cons_of_mem x hy)
      rw [List.mapM_cons, hx, hxs]
      rfl

/-- **A list is read item by item,** where no item has a comma of its own. -/
theorem readItems_commaList {α β : Type} (item : List Token → Option β)
    (tokens : α → List Token) (value : α → β) {xs : List α} (hne : xs ≠ [])
    (hcomma : ∀ x ∈ xs, Token.comma ∉ significant (tokens x))
    (hitem : ∀ x ∈ xs, item (significant (tokens x)) = some (value x)) :
    readItems item (significant (commaList (xs.map tokens))) = some (xs.map value) := by
  have hlist : significant (commaList (xs.map tokens)) =
      [Token.comma].intercalate (xs.map fun x => significant (tokens x)) := by
    rw [significant_commaList, List.map_map]
    rfl
  have hsplit : ([Token.comma].intercalate (xs.map fun x => significant (tokens x))).splitOn
      Token.comma = xs.map fun x => significant (tokens x) := by
    refine List.splitOn_intercalate _ (List.forall_mem_map.mpr ?_) (by simpa using hne)
    intro x hx
    exact hcomma x hx
  rw [readItems, hlist, hsplit, List.mapM_map]
  exact mapM_eq_some_map hitem

theorem readParenthesized_parenthesized {α : Type} (item : List Token → Option α)
    (ts : List Token) :
    readParenthesized item (significant (parenthesized ts)) = readItems item (significant ts) := by
  rw [significant_parenthesized, parenthesized]
  simp [readParenthesized, Token.leftParen]

theorem readItems_nameTokens {names : List String} (hne : names ≠ []) :
    readItems readName (significant (nameTokens names)) = some names := by
  have hread := readItems_commaList readName (fun name => [Token.name name]) id hne
    (by simp [Token.comma]) (by simp [readName])
  rwa [List.map_id] at hread

theorem sign_ne_token (text : String) (v : Scalar) : Token.sign text ≠ v.token := by
  cases v <;> simp [Scalar.token]

theorem readItems_valueTokens {values : List Scalar} (hne : values ≠ []) :
    readItems readValue (significant (valueTokens values)) =
      some (values.map Scalar.written) := by
  refine readItems_commaList readValue (fun value => [value.token]) Scalar.written hne ?_ ?_
  · intro value _
    simp [isBlank_token, Token.comma, sign_ne_token]
  · intro value _
    simp [isBlank_token, readValue, Literal.ofToken?_token]

theorem significant_assignmentTokens (entry : String × Scalar) :
    significant (assignmentTokens entry) = [.name entry.1, .sign "=", entry.2.token] := by
  simp [assignmentTokens, spaced, Token.space, isBlank_token]

theorem readItems_assignments {entries : List (String × Scalar)} (hne : entries ≠ []) :
    readItems readAssignment (significant (commaList (entries.map assignmentTokens))) =
      some (entries.map fun entry => (entry.1, entry.2.written)) := by
  refine readItems_commaList readAssignment assignmentTokens _ hne ?_ ?_
  · intro entry _
    rw [significant_assignmentTokens]
    simp [Token.comma, sign_ne_token]
  · intro entry _
    rw [significant_assignmentTokens]
    simp [readAssignment, Literal.ofToken?_token]

theorem readItems_sortColumns {columns : List (String × SortDirection)} (hne : columns ≠ []) :
    readItems readSortColumn (significant (commaList (columns.map PostProcess.sortTokens))) =
      some columns := by
  have hread := readItems_commaList readSortColumn PostProcess.sortTokens id hne
    (by simp [PostProcess.sortTokens, Token.space, Token.comma]) (by
      rintro ⟨column, direction⟩ -
      cases direction <;> rfl)
  rwa [List.map_id] at hread

/-! ## Tables -/

/-- **The joins of a table are read in order,** where each of them is with a plain table. -/
theorem readTable_append {table : TableRef} (h : table.IsLeftDeep) (ts : List Token) :
    readTable (significant table.tokens ++ ts) = readJoins table ts := by
  -- a plain right side is a single name, so that the joins stand one after the other
  have hplain : ∀ right : TableRef, right.isJoined = false → ∃ name, right = .plain name := by
    intro right hright
    cases right with
    | plain name => exact ⟨name, rfl⟩
    | natural left right => cases hright
    | equality left right first second => cases hright
  induction table generalizing ts with
  | plain name => simp [TableRef.tokens, readTable]
  | natural left right ihleft ihright =>
      obtain ⟨name, rfl⟩ := hplain right h.2
      have htokens : significant (TableRef.natural left (.plain name)).tokens =
          significant left.tokens ++ [.word "NATURAL", .word "JOIN", .name name] := by
        simp [TableRef.tokens, spaced, Token.space]
      rw [htokens, List.append_assoc, ihleft h.1]
      simp [readJoins]
  | equality left right first second ihleft ihright =>
      obtain ⟨name, rfl⟩ := hplain right h.2
      have htokens : significant (TableRef.equality left (.plain name) first second).tokens =
          significant left.tokens ++ [.word "JOIN", .name name, .word "ON", .name first.1,
            .sign ".", .name first.2, .sign "=", .name second.1, .sign ".", .name second.2] := by
        simp [TableRef.tokens, spaced, qualifiedTokens, Token.space]
      rw [htokens, List.append_assoc, ihleft h.1]
      simp [readJoins]

theorem readTable_tokens {table : TableRef} (h : table.IsLeftDeep) :
    readTable (significant table.tokens) = some table := by
  have hread := readTable_append h []
  rw [List.append_nil] at hread
  rw [hread]
  rfl

/-! ## Clauses -/

theorem readProjection_tokens (columns : List String) :
    readProjection (significant (Statement.projectionTokens columns)) = some columns := by
  unfold Statement.projectionTokens
  by_cases hnil : columns = []
  · simp [hnil, readProjection]
  · -- a list of names begins with a name, and not with the sign for all columns
    have hstar : significant (nameTokens columns) ≠ [.sign "*"] := by
      obtain ⟨name, rest, rfl⟩ := List.exists_cons_of_ne_nil hnil
      rw [nameTokens, commaList, List.map_cons, intercalate_cons_eq_flatMap]
      simp
    rw [if_neg hnil, readProjection, if_neg hstar]
    exact readItems_nameTokens hnil

theorem takeClause_eq_none {word : String} {clauses : List Clause}
    (h : ∀ clause ∈ clauses, clause.word ≠ word) : takeClause word clauses = (none, clauses) := by
  cases clauses with
  | nil => rfl
  | cons clause clauses => rw [takeClause, if_neg (h clause List.mem_cons_self)]

/-- **The condition is read as its text,** and as nothing where it has none. -/
theorem takeClause_filterClauses {c : Condition} {clause : String}
    (hplain : ∀ l ∈ c.leaves, Identifier.IsPlain l.column) (h : c.whereClause = .ok clause)
    {clauses : List Clause} (hclauses : ∀ clause ∈ clauses, clause.word ≠ "WHERE") :
    ∃ body, takeClause "WHERE" (Statement.filterClauses c ++ clauses) = (body, clauses) ∧
      readFilter body = c.filter := by
  obtain ⟨text, hbody, -⟩ := Condition.whereClause_eq_ok_iff.mp h
  have hspell := Condition.toList_of_bodyAt hbody
  have hnil := Condition.tokens_eq_nil_iff hplain hbody
  by_cases hempty : text = ""
  · refine ⟨none, ?_, ?_⟩
    · rw [Statement.filterClauses, if_pos (hnil.mpr hempty), List.nil_append]
      exact takeClause_eq_none hclauses
    · simp [readFilter, Condition.filter, hbody, hempty]
  · refine ⟨some c.tokens, ?_, ?_⟩
    · rw [Statement.filterClauses, if_neg fun htokens => hempty (hnil.mp htokens)]
      rfl
    · simp [readFilter, Condition.filter, hbody, hempty, ← hspell]

theorem word_clauseList (p : PostProcess) :
    ∀ clause ∈ p.clauseList, clause.word ∈ ["ORDER", "LIMIT", "OFFSET"] := by
  intro clause hclause
  rcases PostProcess.mem_clauseList hclause with ⟨-, rfl⟩ | ⟨n, rfl | rfl⟩
  · simp [PostProcess.orderClause]
  · simp [PostProcess.countClause]
  · simp [PostProcess.countClause]

theorem readCount_number (n : Nat) :
    readCount (some (significant [Token.number (toString n)])) = some (some n) := by
  have hdigits : ∀ c ∈ Nat.toDigits 10 n, c.isDigit := fun c hc =>
    Nat.isDigit_of_mem_toDigits (by decide) (by decide) hc
  have htext : (toString n).toList = Nat.toDigits 10 n := Nat.toList_repr
  have hvalue : Nat.ofDigitChars 10 (Nat.toDigits 10 n) 0 = n :=
    Nat.ofDigitChars_toDigits (by decide) (by decide)
  rw [significant_cons (Token.isBlank_number _), significant_nil, readCount, htext, hvalue,
    if_pos (List.all_eq_true.mpr hdigits)]

theorem readOrder_body {columns : List (String × SortDirection)} (hne : columns ≠ []) :
    readOrder (some (significant (PostProcess.orderClause columns).body)) = some columns := by
  have hsort := readItems_sortColumns hne
  simp [PostProcess.orderClause, Token.space, readOrder, hsort]

/-- A clause that may be there is taken from the clauses after it. -/
theorem takeClause_optional {α : Type} (word : String) (body : α → List Token) (a? : Option α)
    {clauses : List Clause} (h : ∀ clause ∈ clauses, clause.word ≠ word) :
    takeClause word ((a?.toList.map fun a => (⟨word, body a⟩ : Clause)) ++ clauses) =
      (a?.map body, clauses) := by
  cases a? with
  | none => exact takeClause_eq_none h
  | some a => simp [takeClause]

theorem takeClause_order (sort : List (String × SortDirection)) {clauses : List Clause}
    (h : ∀ clause ∈ clauses, clause.word ≠ "ORDER") :
    ∃ body, takeClause "ORDER"
        ((if sort = [] then [] else [PostProcess.orderClause sort]) ++ clauses) = (body, clauses) ∧
      readOrder (body.map significant) = some sort := by
  by_cases hnil : sort = []
  · refine ⟨none, ?_, ?_⟩
    · rw [if_pos hnil, List.nil_append]
      exact takeClause_eq_none h
    · rw [hnil]
      rfl
  · refine ⟨some (PostProcess.orderClause sort).body, ?_, readOrder_body hnil⟩
    rw [if_neg hnil]
    rfl

/-- **The directives are read as they are.** -/
theorem readDirectives_clauseList (p : PostProcess) : readDirectives p.clauseList = some p := by
  obtain ⟨sort, limit, offset⟩ := p
  let body : Nat → List Token := fun n => [.number (toString n)]
  have hcount : ∀ n? : Option Nat, readCount ((n?.map body).map significant) = some n? := by
    intro n?
    cases n? with
    | none => rfl
    | some n => exact readCount_number n
  have hoffset : takeClause "OFFSET" (offset.toList.map (PostProcess.countClause "OFFSET")) =
      (offset.map body, []) := by
    have htake := takeClause_optional "OFFSET" body offset (List.forall_mem_nil _)
    rwa [List.append_nil] at htake
  have hlimit : takeClause "LIMIT" (limit.toList.map (PostProcess.countClause "LIMIT") ++
      offset.toList.map (PostProcess.countClause "OFFSET")) =
        (limit.map body, offset.toList.map (PostProcess.countClause "OFFSET")) :=
    takeClause_optional "LIMIT" body limit (by simp [PostProcess.countClause])
  have hword : ∀ clause ∈ limit.toList.map (PostProcess.countClause "LIMIT") ++
      offset.toList.map (PostProcess.countClause "OFFSET"), clause.word ≠ "ORDER" := by
    simp [PostProcess.countClause, or_imp, forall_and]
  obtain ⟨order, horder, hsort⟩ := takeClause_order sort hword
  simp only [readDirectives, PostProcess.clauseList, horder, hlimit, hoffset, hsort, hcount]
  rfl

/-! ## Statements -/

theorem readTarget_tokens (name : String) {columns : List String} (hne : columns ≠ []) :
    readTarget (significant (.word "INTO" :: .space ::
        ((TableRef.plain name).tokens ++ parenthesized (nameTokens columns)))) =
      some (.plain name, columns) := by
  have hcolumns := readParenthesized_parenthesized readName (nameTokens columns)
  rw [readItems_nameTokens hne] at hcolumns
  simp [TableRef.tokens, Token.space, readTarget, hcolumns]

theorem ofClauses_insert (name : String) {row : Row} (hne : row.entries ≠ []) :
    ofClauses (Statement.insert (.plain name) row).clauses =
      some (Statement.insert (.plain name) row).message := by
  have hcolumns : row.columns ≠ [] := by simpa [Row.columns] using hne
  have hrow : row.values ≠ [] := by simpa [Row.values] using hne
  have hvalues :
      readParenthesized readValue (significant (parenthesized (valueTokens row.values))) =
        some (row.values.map Scalar.written) := by
    rw [readParenthesized_parenthesized, readItems_valueTokens hrow]
  -- columns and values are written apart, but come from the same entries
  have hlength : row.columns.length = (row.values.map Scalar.written).length := by
    simp [Row.columns, Row.values]
  have hcells : row.columns.zip (row.values.map Scalar.written) = row.cells := by
    simp [Row.columns, Row.values, Row.cells, List.zip_map']
  simp only [Statement.clauses, ofClauses, readTarget_tokens name hcolumns, hvalues,
    Option.bind_eq_bind, Option.bind_some, if_pos hlength, hcells, Statement.message]

end Message

namespace Statement

/-- **The text of a statement tells what the statement says.** -/
theorem message_of_compile {s : Statement} {text : String} (h : s.compile = .ok text)
    (hplain : ∀ name ∈ s.names, Identifier.IsPlain name) (hdeep : s.table.IsLeftDeep) :
    Message.read? text = some s.message := by
  -- the text is cut into the clauses of the statement, which are then read one by one
  have hread : Message.read? text = Message.ofClauses s.clauses := by
    simp [Message.read?, lex_of_compile h hplain, Message.cutClauses_tokens]
  rw [hread]
  cases s with
  | insert table row =>
      obtain ⟨hjoined, hrow, -⟩ := insertSql_eq_ok h
      -- no row is written to a joined table
      cases table with
      | plain name => exact Message.ofClauses_insert name hrow
      | natural left right => cases hjoined
      | equality left right first second => cases hjoined
  | select table condition columns post =>
      obtain ⟨clause, hclause, -⟩ := selectSql_eq_ok h
      simp only [names, List.forall_mem_append, List.forall_mem_map] at hplain
      obtain ⟨⟨⟨-, hcondition⟩, -⟩, -⟩ := hplain
      have hwords : ∀ clause ∈ post.clauseList, clause.word ≠ "WHERE" := by
        intro clause hclause hword
        have hmem := Message.word_clauseList post clause hclause
        simp [hword] at hmem
      obtain ⟨body, htake, hfilter⟩ :=
        Message.takeClause_filterClauses hcondition hclause hwords
      have htable : Message.readTable (significant table.tokens) = some table :=
        Message.readTable_tokens hdeep
      simp [clauses, Message.ofClauses, htake, hfilter, Message.readProjection_tokens, htable,
        Message.readDirectives_clauseList, message]
  | update table condition row =>
      obtain ⟨-, hrow, clause, hclause, -⟩ := updateSql_eq_ok h
      simp only [names, List.forall_mem_append, List.forall_mem_map] at hplain
      obtain ⟨⟨-, hcondition⟩, -⟩ := hplain
      obtain ⟨body, htake, hfilter⟩ :=
        Message.takeClause_filterClauses hcondition hclause (List.forall_mem_nil _)
      rw [List.append_nil] at htake
      have htable : Message.readTable (significant table.tokens) = some table :=
        Message.readTable_tokens hdeep
      simp [clauses, Message.ofClauses, htake, hfilter, Message.readItems_assignments hrow, htable,
        message, Row.cells]
  | delete table condition =>
      obtain ⟨-, clause, hclause, -⟩ := deleteSql_eq_ok h
      simp only [names, List.forall_mem_append, List.forall_mem_map] at hplain
      obtain ⟨-, hcondition⟩ := hplain
      obtain ⟨body, htake, hfilter⟩ :=
        Message.takeClause_filterClauses hcondition hclause (List.forall_mem_nil _)
      rw [List.append_nil] at htake
      have htable : Message.readTable (significant table.tokens) = some table :=
        Message.readTable_tokens hdeep
      simp [clauses, Message.ofClauses, htake, hfilter, htable, message]

/-- Names and values that look like clauses are read as names and values. -/
theorem message_of_compile_clauses :
    let s := Statement.select
      (.equality (.natural (.plain "a WHERE") (.plain "b")) (.plain "c") ("b", "x") ("c", "y, z"))
      (.and [.leaf ⟨"k = 1", .like, .string "\" ORDER BY x LIMIT 1 -- "⟩]) ["p", "q FROM"]
      ⟨[("s", .descending), ("t", .ascending)], some 10, some 0⟩
    let text := "SELECT `p`, `q FROM` FROM `a WHERE` NATURAL JOIN `b` JOIN `c` ON `b`.`x` = " ++
      "`c`.`y, z` WHERE (`k = 1` LIKE \"\\\" ORDER BY x LIMIT 1 -- \") " ++
      "ORDER BY `s` DESC, `t` ASC LIMIT 10 OFFSET 0"
    s.compile = .ok text ∧ (∀ name ∈ s.names, Identifier.IsPlain name) ∧ s.table.IsLeftDeep ∧
      Message.read? text = some s.message := by
  refine ⟨rfl, by decide, ⟨⟨trivial, rfl⟩, rfl⟩, message_of_compile ?_ ?_ ?_⟩
  · rfl
  · decide
  · exact ⟨⟨trivial, rfl⟩, rfl⟩

end Statement

end DocumentSql
