import DocumentSql.Proofs.Condition.Rows
import DocumentSql.Search.Plan

/-!
# What a search finds

A planned search is a SELECT, and its condition is true of the rows in which the keyword is
found. A word is looked for between percent signs, as a pattern: it is found where it stands, but
if it has a character with a meaning of its own, it is found elsewhere, too.

* `SearchSchema.exists_finds_of_plan`: a row is selected exactly when the keyword is found in it.
* `SearchTable.matchColumn_infix_iff`: the words that are found exactly where they stand.
-/

set_option autoImplicit false

namespace DocumentSql

/-! ## Pieces of a keyword -/

theorem Text.piecesOf_eq_splitOn (mark : Char) (cs : List Char) :
    piecesOf mark cs = cs.splitOn mark := by
  rw [List.splitOn]
  induction cs with
  | nil => rfl
  | cons c cs ih =>
      rw [piecesOf, List.splitOnP_cons_eq_if_modifyHead, ih]
      by_cases h : c = mark
      · simp [h]
      · rw [if_neg h, if_neg (by simpa using h)]
        cases hpieces : cs.splitOnP fun x => x == mark with
        | nil => exact absurd hpieces fun h => List.splitOnP_ne_nil _ _ h
        | cons piece rest => rfl

/-! ## What a search finds -/

namespace SearchTable

/-- A word is found in a column of a row: the value equals it where the column is exact, and is
LIKE it between percent signs where it is not. Nothing is found in NULL. -/
def FoundIn (t : SearchTable) (row : TextRow) (column word : String) : Prop :=
  ∃ value, row column = some value ∧
    if column ∈ t.exactColumns then value = word
    else Pattern.like ("%" ++ word ++ "%") value = true

/-- A keyword is found in a row: the whole keyword in the column that is named, or else each of
the pieces between single spaces in some searchable column. An empty keyword is found in every
row. -/
def Finds (t : SearchTable) (row : TextRow) (keyword : String) : Option String → Prop
  | some column => keyword = "" ∨ t.FoundIn row column keyword
  | none =>
      keyword = "" ∨ ∀ word ∈ keyword.toList.splitOn ' ',
        ∃ column ∈ t.searchable, t.FoundIn row column (String.ofList word)

section Finding

variable (t : SearchTable) (other : Leaf → Truth) (row : TextRow)

theorem truthIn_matchColumn (column word : String) :
    (t.matchColumn column word).truthIn (Leaf.truthIn other row) = .true ↔
      t.FoundIn row column word := by
  have hexact : t.isExact column = true ↔ column ∈ t.exactColumns := List.contains_iff_mem
  rw [matchColumn, FoundIn]
  by_cases h : column ∈ t.exactColumns
  · simp only [if_pos h, if_pos (hexact.mpr h)]
    cases hvalue : row column <;> simp [Condition.compare, Leaf.truthIn, hvalue]
  · simp only [if_neg h, if_neg (mt hexact.mp h)]
    cases hvalue : row column <;> simp [Condition.compare, Leaf.truthIn, hvalue]

theorem truthIn_matchWord (word : String) :
    (t.matchWord word).truthIn (Leaf.truthIn other row) = .true ↔
      ∃ column ∈ t.searchable, t.FoundIn row column word := by
  rw [matchWord, Condition.truthIn_or_eq_true_iff]
  simp [truthIn_matchColumn]

/-- **The condition of a keyword** is true of the rows in which the keyword is found. -/
theorem truthIn_matchKeyword (keyword : String) (column : Option String) :
    (t.matchKeyword keyword column).truthIn (Leaf.truthIn other row) = .true ↔
      t.Finds row keyword column := by
  by_cases hempty : keyword = ""
  · cases column <;> simp [matchKeyword, Finds, hempty]
  · cases column with
    | some column => simp [matchKeyword, Finds, hempty, truthIn_matchColumn]
    | none =>
        simp [matchKeyword, Finds, hempty, Condition.truthIn_and_eq_true_iff, truthIn_matchWord,
          Text.pieces, Text.piecesOf_eq_splitOn]

end Finding

/-! ## Words that are found where they stand -/

/-- **A word is found exactly where it stands** in the values of a column that is not exact, if
and only if none of its characters has a meaning of its own in a pattern. -/
theorem matchColumn_infix_iff {t : SearchTable} {column : String}
    (hexact : column ∉ t.exactColumns) (word : String) :
    (∀ (other : Leaf → Truth) (row : TextRow) (value : String), row column = some value →
      ((t.matchColumn column word).truthIn (Leaf.truthIn other row) = .true ↔
        word.toList <:+: value.toList)) ↔
      ∀ c ∈ word.toList, c ∉ Pattern.special := by
  have hfound : ∀ (other : Leaf → Truth) (row : TextRow) (value : String),
      row column = some value →
        ((t.matchColumn column word).truthIn (Leaf.truthIn other row) = .true ↔
          Pattern.like ("%" ++ word ++ "%") value = true) := by
    intro other row value hvalue
    rw [truthIn_matchColumn]
    simp [FoundIn, hexact, hvalue]
  constructor
  · intro h c hc hspecial
    obtain ⟨text, hlike, hnot⟩ := Pattern.exists_like_not_infix ⟨c, hc, hspecial⟩
    have hcondition := (hfound (fun _ => .unknown) (fun _ => some text) text rfl).mpr hlike
    exact hnot ((h _ _ text rfl).mp hcondition)
  · intro h other row value hvalue
    rw [hfound other row value hvalue, Pattern.like_between_iff h]

/-- A share of fifty percent is looked for in the names of a table. -/
theorem matchColumn_infix_iff_percent :
    let t : SearchTable := ⟨["name"], [], []⟩
    "name" ∉ t.exactColumns ∧
      ((∀ (other : Leaf → Truth) (row : TextRow) (value : String), row "name" = some value →
        ((t.matchColumn "name" "50%").truthIn (Leaf.truthIn other row) = .true ↔
          "50%".toList <:+: value.toList)) ↔
        ∀ c ∈ "50%".toList, c ∉ Pattern.special) :=
  ⟨by decide, matchColumn_infix_iff (by decide) "50%"⟩

/-- Five hundred is found for fifty percent, which it does not contain. -/
theorem percent_found_where_absent :
    ¬ ∀ (t : SearchTable) (column word value : String) (other : Leaf → Truth) (row : TextRow),
      column ∈ t.searchable → column ∉ t.exactColumns → row column = some value →
        ((t.matchColumn column word).truthIn (Leaf.truthIn other row) = .true ↔
          word.toList <:+: value.toList) := by
  intro h
  have hiff := h ⟨["name"], [], []⟩ "name" "50%" "500" (fun _ => .unknown)
    (fun _ => some "500") (by decide) (by decide) rfl
  have hfound : (SearchTable.matchColumn ⟨["name"], [], []⟩ "name" "50%").truthIn
      (Leaf.truthIn (fun _ => .unknown) fun _ => some "500") = .true := by
    rw [truthIn_matchColumn]
    exact ⟨"500", rfl, by decide⟩
  exact absurd (hiff.mp hfound) (by decide)

end SearchTable

/-! ## The plan -/

/-- **A planned search selects the rows in which the keyword is found.** It returns the columns
of the table's output, and no more rows than the request asks for. -/
theorem SearchSchema.exists_finds_of_plan {schema : SearchSchema} {request : SearchRequest}
    {plan : SearchPlan} (h : schema.plan request = .ok plan) :
    ∃ t, schema.get? request.table = some t ∧
      plan.statement = .select (.plain request.table) plan.condition t.output
        { PostProcess.empty with limit := request.limit } ∧
      ∀ (other : Leaf → Truth) (row : TextRow),
        plan.condition.truthIn (Leaf.truthIn other row) = .true ↔
          t.Finds row request.keyword request.column := by
  rw [SearchSchema.plan] at h
  cases htable : schema.get? request.table with
  | none =>
      rw [htable] at h
      cases h
  | some t =>
      rw [htable] at h
      obtain ⟨-, -, hplan⟩ := bind_eq_ok_iff.mp h
      cases hplan
      exact ⟨t, rfl, rfl, fun other row => t.truthIn_matchKeyword other row _ _⟩

/-- Two words with two spaces between them: the empty piece is looked for as well. -/
theorem exists_finds_of_plan_words :
    let schema : SearchSchema := ⟨[("Pet", ⟨["name", "sex"], ["name"], ["sex"]⟩)]⟩
    let request : SearchRequest := ⟨"M  cat", "Pet", none, some 5⟩
    ∃ plan, schema.plan request = .ok plan ∧
      ∃ t, schema.get? request.table = some t ∧
        plan.statement = .select (.plain request.table) plan.condition t.output
          { PostProcess.empty with limit := request.limit } ∧
        ∀ (other : Leaf → Truth) (row : TextRow),
          plan.condition.truthIn (Leaf.truthIn other row) = .true ↔
            t.Finds row request.keyword request.column :=
  ⟨_, rfl, SearchSchema.exists_finds_of_plan rfl⟩

end DocumentSql
