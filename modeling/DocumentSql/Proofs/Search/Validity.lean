import DocumentSql.Proofs.Condition.Filter
import DocumentSql.Proofs.Statement.Compile
import DocumentSql.Search.Plan
import DocumentSql.Search.SchemaFile

/-!
# Searches that have a text

A search schema is valid where it passes its check. A keyword becomes an OR over the searchable
columns for each of its pieces, and a group without operands has no text: so a search has a text
where the table has a searchable column, and the check asks for just that. In a valid schema the
only requests without a text are those that name something the schema does not have.

* `SearchSchema.validate_eq_ok_iff`: the schemas that pass the check.
* `SearchTable.exists_body_matchKeyword_iff`: the keywords whose condition has a text.
* `SearchSchema.searches_have_text`: the requests that have a text in a valid schema.
-/

set_option autoImplicit false

namespace DocumentSql

/-! ## Valid schemas -/

/-- A table that can be searched. -/
structure SearchTable.IsValid (t : SearchTable) : Prop where
  searchable_ne_nil : t.searchable ≠ []
  searchable_named : ∀ column ∈ t.searchable, column ≠ ""
  output_named : ∀ column ∈ t.output, column ≠ ""
  exact_named : ∀ column ∈ t.exactColumns, column ≠ ""
  exact_searchable : ∀ column ∈ t.exactColumns, column ∈ t.searchable

/-- A schema all of whose tables have a name and can be searched. -/
structure SearchSchema.IsValid (schema : SearchSchema) : Prop where
  tables_ne_nil : schema.tables ≠ []
  table_named : ∀ entry ∈ schema.tables, entry.1 ≠ ""
  table_valid : ∀ entry ∈ schema.tables, entry.2.IsValid

theorem not_any_isEmpty_iff {names : List String} :
    ¬ names.any String.isEmpty = true ↔ ∀ name ∈ names, name ≠ "" := by
  simp only [List.any_eq_true, String.isEmpty_iff, not_exists, not_and]

theorem SearchTable.find?_notSearchable_iff {t : SearchTable} :
    t.exactColumns.find? (fun column => !t.isSearchable column) = none ↔
      ∀ column ∈ t.exactColumns, column ∈ t.searchable := by
  simp [List.find?_eq_none, isSearchable]

theorem SearchTable.validate_eq_ok_iff {t : SearchTable} {name : String} :
    t.validate name = .ok () ↔ t.IsValid := by
  rw [validate, guarded_eq_ok_iff, guarded_eq_ok_iff, List.isEmpty_iff, not_any_isEmpty_iff,
    List.forall_mem_append, List.forall_mem_append]
  cases hfind : t.exactColumns.find? fun column => !t.isSearchable column with
  | some column =>
      have hinvalid : ¬ t.IsValid := by
        intro h
        rw [find?_notSearchable_iff.mpr h.exact_searchable] at hfind
        cases hfind
      simp [hinvalid]
  | none =>
      constructor
      · rintro ⟨hsearchable, ⟨⟨hnamed, houtput⟩, hexact⟩, -⟩
        exact ⟨hsearchable, hnamed, houtput, hexact, find?_notSearchable_iff.mp hfind⟩
      · rintro ⟨hsearchable, hnamed, houtput, hexact, -⟩
        exact ⟨hsearchable, ⟨⟨hnamed, houtput⟩, hexact⟩, rfl⟩

theorem SearchSchema.validateTables_eq_ok_iff {tables : List (String × SearchTable)} :
    validateTables tables = .ok () ↔ ∀ entry ∈ tables, entry.1 ≠ "" ∧ entry.2.IsValid := by
  induction tables with
  | nil => simp [validateTables]
  | cons entry tables ih =>
      obtain ⟨name, t⟩ := entry
      rw [validateTables, guarded_eq_ok_iff, then_eq_ok_iff, SearchTable.validate_eq_ok_iff, ih,
        String.isEmpty_iff, List.forall_mem_cons, and_assoc]

/-- **The schemas that pass the check.** -/
theorem SearchSchema.validate_eq_ok_iff {schema : SearchSchema} :
    schema.validate = .ok () ↔ schema.IsValid := by
  rw [validate, guarded_eq_ok_iff, validateTables_eq_ok_iff, List.isEmpty_iff]
  constructor
  · rintro ⟨htables, h⟩
    exact ⟨htables, fun entry hentry => (h entry hentry).1, fun entry hentry =>
      (h entry hentry).2⟩
  · intro h
    exact ⟨h.tables_ne_nil, fun entry hentry =>
      ⟨h.table_named entry hentry, h.table_valid entry hentry⟩⟩

/-- What a text describes has passed the check. -/
theorem SearchSchema.validate_of_ofToml {text : String} {schema : SearchSchema}
    (h : ofToml text = .ok schema) : schema.validate = .ok () := by
  unfold ofToml at h
  split at h
  · cases h
  · cases h
  · split at h
    · cases h
    · obtain ⟨u, hvalidate, h⟩ := bind_eq_ok_iff.mp h
      cases h
      exact hvalidate

/-! ## Conditions of keywords -/

namespace SearchTable

open Condition

variable (t : SearchTable)

theorem exists_matchColumn (column word : String) : ∃ l, t.matchColumn column word = .leaf l := by
  rw [matchColumn]
  by_cases h : t.isExact column
  · rw [if_pos h]
    exact ⟨_, rfl⟩
  · rw [if_neg h]
    exact ⟨_, rfl⟩

theorem exists_isOperandText_matchColumn {depth : Nat} (h : depth ≤ deepestCondition)
    (column word : String) : ∃ part, IsOperandText depth (t.matchColumn column word) part := by
  obtain ⟨l, hl⟩ := t.exists_matchColumn column word
  have hne : l.sql ≠ "" := by simpa using isEmpty_sql l
  exact ⟨l.sql, by rw [hl, bodyAt_leaf h], hne⟩

/-- A word has a text where there is a column to look for it. -/
theorem exists_isOperandText_matchWord_iff {depth : Nat} (h : depth < deepestCondition)
    (word : String) :
    (∃ part, IsOperandText depth (t.matchWord word) part) ↔ t.searchable ≠ [] := by
  constructor
  · rintro ⟨part, hpart, -⟩
    obtain ⟨-, hne, -⟩ := (exists_bodyAt_group_iff ..).mp ⟨part, hpart⟩
    simpa using hne
  · intro hsearchable
    have hoperands : ∀ c ∈ t.searchable.map fun column => t.matchColumn column word,
        ∃ part, IsOperandText (depth + 1) c part := by
      intro c hc
      obtain ⟨column, -, rfl⟩ := List.mem_map.mp hc
      exact t.exists_isOperandText_matchColumn h column word
    obtain ⟨text, htext⟩ := (exists_bodyAt_group_iff depth .or _).mpr
      ⟨Nat.le_of_lt h, by simpa using hsearchable, hoperands⟩
    exact ⟨text, isOperandText_group htext⟩

/-- **The keywords whose condition has a text:** a keyword that is looked for in all columns needs
one of them. -/
theorem exists_body_matchKeyword_iff (keyword : String) (column : Option String) :
    (∃ text, (t.matchKeyword keyword column).body = .ok text) ↔
      keyword = "" ∨ column ≠ none ∨ t.searchable ≠ [] := by
  have hdepth : 1 < deepestCondition := by decide
  by_cases hempty : keyword = ""
  · cases column <;> simp [matchKeyword, hempty, body, bodyAt_empty]
  cases column with
  | some column =>
      obtain ⟨part, hpart, -⟩ :=
        t.exists_isOperandText_matchColumn (Nat.zero_le _) column keyword
      simp [matchKeyword, hempty, body, hpart]
  | none =>
      have hpieces : Text.pieces ' ' keyword ≠ [] := by
        simpa [Text.pieces] using Text.piecesOf_ne_nil ' ' keyword.toList
      obtain ⟨word, hword⟩ := List.exists_mem_of_ne_nil _ hpieces
      rw [matchKeyword, if_neg (by simpa using hempty), body, Condition.and,
        exists_bodyAt_group_iff]
      simp only [ne_eq, List.map_eq_nil_iff, List.forall_mem_map,
        t.exists_isOperandText_matchWord_iff hdepth]
      -- there is a piece, and each of them asks for the same
      constructor
      · rintro ⟨-, -, h⟩
        exact .inr (.inr (h word hword))
      · rintro (h | h | h)
        · exact absurd h hempty
        · exact absurd trivial h
        · exact ⟨Nat.zero_le _, hpieces, fun _ _ => h⟩

end SearchTable

/-! ## Plans -/

namespace SearchSchema

/-- The schema has the table that a request names, and the table the column, if one is named. -/
def Offers (schema : SearchSchema) (request : SearchRequest) : Prop :=
  ∃ t, schema.get? request.table = some t ∧ ∀ column ∈ request.column, column ∈ t.searchable

/-- The text of the SELECT that a request becomes. -/
def searchSql (schema : SearchSchema) (request : SearchRequest) : Except QueryError String := do
  let plan ← QueryError.ofSchema (schema.plan request)
  plan.sql

theorem checkColumn_eq_ok_iff {t : SearchTable} {table : String} {column : Option String} :
    checkColumn t table column = .ok () ↔ ∀ name ∈ column, name ∈ t.searchable := by
  cases column with
  | none => simp [checkColumn]
  | some column => simp [checkColumn, SearchTable.isSearchable]

/-- **The plans** of the requests for which the schema has what they name. -/
theorem plan_eq_ok_iff {schema : SearchSchema} {request : SearchRequest} {plan : SearchPlan} :
    schema.plan request = .ok plan ↔
      ∃ t, schema.get? request.table = some t ∧
        (∀ column ∈ request.column, column ∈ t.searchable) ∧
          plan = ⟨request.table, t.matchKeyword request.keyword request.column, t.output,
            { PostProcess.empty with limit := request.limit }⟩ := by
  rw [SearchSchema.plan]
  cases schema.get? request.table with
  | none => simp
  | some t =>
      show (checkColumn t request.table request.column >>= fun _ => _) = _ ↔ _
      rw [then_eq_ok_iff, checkColumn_eq_ok_iff, Except.ok.injEq, @eq_comm _ _ plan]
      simp

theorem exists_plan_iff {schema : SearchSchema} {request : SearchRequest} :
    (∃ plan, schema.plan request = .ok plan) ↔ schema.Offers request := by
  simp only [plan_eq_ok_iff]
  constructor
  · rintro ⟨-, t, htable, hcolumn, -⟩
    exact ⟨t, htable, hcolumn⟩
  · rintro ⟨t, htable, hcolumn⟩
    exact ⟨_, t, htable, hcolumn, rfl⟩

/-- A table of a valid schema can be searched. -/
theorem IsValid.get? {schema : SearchSchema} (h : schema.IsValid) {name : String}
    {t : SearchTable} (ht : schema.get? name = some t) : t.IsValid :=
  h.table_valid _ (Entries.mem_of_get? ht)

/-- **No plan of a valid schema is without a text.** -/
theorem IsValid.exists_sql {schema : SearchSchema} (h : schema.IsValid) {request : SearchRequest}
    {plan : SearchPlan} (hplan : schema.plan request = .ok plan) : ∃ sql, plan.sql = .ok sql := by
  obtain ⟨t, htable, -, rfl⟩ := plan_eq_ok_iff.mp hplan
  refine Statement.exists_selectSql_iff.mpr ?_
  exact (t.exists_body_matchKeyword_iff _ _).mpr (.inr (.inr (h.get? htable).searchable_ne_nil))

/-- **The requests that have a text.** A schema is checked for just what a search needs, a schema
read from a text has passed the check, and in a schema that passes it a request has a text exactly
when the schema has what the request names. Every other request is refused. -/
theorem searches_have_text (schema : SearchSchema) :
    (schema.validate = .ok () ↔ schema.IsValid) ∧
      (∀ text, ofToml text = .ok schema → schema.validate = .ok ()) ∧
      (schema.validate = .ok () → ∀ request : SearchRequest,
        ((∃ sql, schema.searchSql request = .ok sql) ↔ schema.Offers request) ∧
        (¬ schema.Offers request → ∃ fault, schema.searchSql request = .error (.schema fault)) ∧
        ∀ plan, schema.plan request = .ok plan → ∃ sql, plan.sql = .ok sql) := by
  refine ⟨validate_eq_ok_iff, fun text h => validate_of_ofToml h, ?_⟩
  intro hvalidate request
  have hvalid := validate_eq_ok_iff.mp hvalidate
  rw [← exists_plan_iff, searchSql]
  cases hplan : schema.plan request with
  | error fault =>
      have hnone : ¬ ∃ plan, (.error fault : Except SchemaFault SearchPlan) = .ok plan := by simp
      refine ⟨iff_of_false ?_ hnone, fun _ => ⟨fault, rfl⟩, by simp⟩
      rintro ⟨sql, h⟩
      cases h
  | ok plan =>
      have hsql := hvalid.exists_sql hplan
      refine ⟨iff_of_true hsql ⟨plan, rfl⟩, fun h => absurd ⟨plan, rfl⟩ h, ?_⟩
      rintro _ ⟨⟩
      exact hsql

/-- Two spaces are three pieces without a character, which are looked for all the same; prices are
not looked at. -/
theorem searches_have_text_blanks :
    let blanks : SearchRequest := ⟨"  ", "Review", none, none⟩
    let price : SearchRequest := ⟨"10", "Pet", some "price", none⟩
    let piece := "((`content` LIKE \"%%\") OR (`pet_shop_name` LIKE \"%%\"))"
    petShop.validate = .ok () ∧ petShop.Offers blanks ∧ ¬ petShop.Offers price ∧
      petShop.searchSql blanks =
        .ok ("SELECT `rating`, `review_date`, `content`, `customer_email`, `pet_shop_name` " ++
          "FROM `Review` WHERE " ++ piece ++ " AND " ++ piece ++ " AND " ++ piece) ∧
      petShop.searchSql price = .error (.schema (.columnNotSearchable "price" "Pet")) := by
  intro blanks price piece
  have hvalidate : petShop.validate = .ok () := rfl
  have hblanks : petShop.Offers blanks := ⟨_, rfl, by simp [blanks]⟩
  have hprice : ¬ petShop.Offers price := by
    rintro ⟨t, htable, hcolumn⟩
    cases htable
    exact absurd (hcolumn "price" rfl) (by decide)
  have hrequests := (searches_have_text petShop).2.2 hvalidate
  -- that there is a text and a fault is from the theorem; which ones, from a run
  obtain ⟨sql, hsql⟩ := (hrequests blanks).1.mpr hblanks
  obtain ⟨fault, hfault⟩ := (hrequests price).2.1 hprice
  have htext : (petShop.searchSql blanks).toOption =
      some ("SELECT `rating`, `review_date`, `content`, `customer_email`, `pet_shop_name` " ++
        "FROM `Review` WHERE " ++ piece ++ " AND " ++ piece ++ " AND " ++ piece) := by
    decide +kernel
  have hcolumn : petShop.searchSql price =
      .error (.schema (.columnNotSearchable "price" "Pet")) := rfl
  refine ⟨hvalidate, hblanks, hprice, ?_, ?_⟩
  · rw [hsql] at htext ⊢
    exact congrArg _ (Option.some.inj htext)
  · rw [hfault] at hcolumn ⊢
    exact hcolumn

end SearchSchema

end DocumentSql
