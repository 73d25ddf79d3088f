import DocumentSql.Proofs.Search.Meaning
import DocumentSql.Proofs.Search.Validity
import Mathlib.Logic.Relation

/-!
# Spaces in a keyword

The words of a keyword are what its spaces separate. A space at an end of the keyword, or beside
another space, adds no word, but it adds an empty piece, and pieces are what is looked for. The
empty piece is found in every value of a column that is not exact, where it makes no difference to
a row in which a word is found. An exact column has to equal it.

* `SearchTable.finds_iff_words`: what is looked for besides the words.
* `SearchSchema.ignoresSpaces_iff`: the tables in which such spaces make no difference.
-/

set_option autoImplicit false

namespace DocumentSql

open Relation (ReflTransGen)

/-! ## Words -/

namespace Text

/-- The words of a text: the pieces between its spaces, without those that are empty. -/
def words (cs : List Char) : List (List Char) := (cs.splitOn ' ').filter (· ≠ [])

/-- A space is added at an end of a text, or beside a space. -/
inductive AddsSpace : List Char → List Char → Prop
  | front (cs : List Char) : AddsSpace cs (' ' :: cs)
  | back (cs : List Char) : AddsSpace cs (cs ++ [' '])
  | beside (before after : List Char) :
      AddsSpace (before ++ ' ' :: after) (before ++ ' ' :: ' ' :: after)

/-- A space separates words. -/
theorem words_append (before after : List Char) :
    words (before ++ ' ' :: after) = words before ++ words after := by
  rw [words, List.splitOn_append_cons_self, List.filter_append]
  rfl

theorem words_space (cs : List Char) : words (' ' :: cs) = words cs := words_append [] cs

/-- **Another space adds no word.** -/
theorem words_of_addsSpace {cs ds : List Char} (h : AddsSpace cs ds) : words ds = words cs := by
  cases h with
  | front => exact words_space cs
  | back =>
      rw [words_append]
      exact List.append_nil _
  | beside before after => rw [words_append, words_space, words_append]

theorem words_of_addsSpaces {cs ds : List Char} (h : ReflTransGen AddsSpace cs ds) :
    words ds = words cs := by
  induction h with
  | refl => rfl
  | tail _ hspace ih => rw [words_of_addsSpace hspace, ih]

/-- A text with a character that is no space has a word. -/
theorem words_ne_nil {cs : List Char} (h : ∃ c ∈ cs, c ≠ ' ') : words cs ≠ [] := by
  induction cs with
  | nil => simp at h
  | cons c cs ih =>
      by_cases hc : c = ' '
      · subst hc
        rw [words_space]
        exact ih (by simpa using h)
      · -- the first word begins with the character
        rw [words, List.splitOn_cons_eq_if_modifyHead, if_neg (by simpa using hc)]
        cases hpieces : cs.splitOn ' ' with
        | nil => exact absurd hpieces (List.splitOn_ne_nil _ _)
        | cons piece pieces => simp

end Text

/-! ## What is looked for -/

namespace SearchTable

variable {t : SearchTable} {row : TextRow}

/-- Nothing is found in every value, unless the column is exact. -/
theorem foundIn_empty_iff {column : String} :
    t.FoundIn row column "" ↔
      ∃ value, row column = some value ∧ (column ∈ t.exactColumns → value = "") := by
  have hlike : ∀ value, Pattern.like ("%" ++ "" ++ "%") value = true := fun value =>
    (Pattern.like_between_iff (by simp) value).mpr (List.nil_infix)
  rw [FoundIn]
  by_cases h : column ∈ t.exactColumns
  · simp only [h, if_true, true_imp_iff]
  · simp only [h, if_false, hlike, false_imp_iff]

/-- **A keyword is found** where each of its words is, and nothing is found if the keyword has an
empty piece. -/
theorem finds_iff_words {keyword : String} (h : Text.words keyword.toList ≠ []) :
    t.Finds row keyword none ↔
      (∀ word ∈ Text.words keyword.toList,
        ∃ column ∈ t.searchable, t.FoundIn row column (String.ofList word)) ∧
      ([] ∈ keyword.toList.splitOn ' ' → ∃ column ∈ t.searchable, t.FoundIn row column "") := by
  have hne : keyword ≠ "" := by
    rintro rfl
    exact h rfl
  simp only [Finds, hne, false_or, Text.words, List.mem_filter, decide_eq_true_eq]
  constructor
  · intro hpieces
    exact ⟨fun word hword => hpieces word hword.1, fun hempty => hpieces [] hempty⟩
  · rintro ⟨hwords, hempty⟩ piece hpiece
    by_cases hnil : piece = []
    · subst hnil
      exact hempty hpiece
    · exact hwords piece ⟨hpiece, hnil⟩

/-- Where no column is exact, a keyword is found where its words are. -/
theorem finds_iff_of_exactColumns_eq_nil (hexact : t.exactColumns = []) {keyword : String}
    (h : Text.words keyword.toList ≠ []) :
    t.Finds row keyword none ↔ ∀ word ∈ Text.words keyword.toList,
      ∃ column ∈ t.searchable, t.FoundIn row column (String.ofList word) := by
  rw [finds_iff_words h, and_iff_left_iff_imp]
  intro hwords _
  -- the column in which some word is found has a value
  obtain ⟨word, hword⟩ := List.exists_mem_of_ne_nil _ h
  obtain ⟨column, hcolumn, value, hvalue, -⟩ := hwords word hword
  exact ⟨column, hcolumn, foundIn_empty_iff.mpr ⟨value, hvalue, by simp [hexact]⟩⟩

end SearchTable

/-! ## Tables in which spaces make no difference -/

namespace SearchSchema

/-- Spaces that are added to a keyword make no difference to what is found in a table. -/
def IgnoresSpaces (schema : SearchSchema) (table : String) : Prop :=
  ∀ (keyword spaced : String) (limit : Option Nat), (∃ c ∈ keyword.toList, c ≠ ' ') →
    ReflTransGen Text.AddsSpace keyword.toList spaced.toList →
      ∃ plan plan', schema.plan ⟨keyword, table, none, limit⟩ = .ok plan ∧
        schema.plan ⟨spaced, table, none, limit⟩ = .ok plan' ∧
          ∀ (other : Leaf → Truth) (row : TextRow),
            plan.condition.truthIn (Leaf.truthIn other row) = .true ↔
              plan'.condition.truthIn (Leaf.truthIn other row) = .true

/-- A keyword without a column has a plan in every table of a schema. -/
theorem plan_keyword {schema : SearchSchema} {table : String} {t : SearchTable}
    (ht : schema.get? table = some t) (keyword : String) (limit : Option Nat) :
    ∃ plan, schema.plan ⟨keyword, table, none, limit⟩ = .ok plan ∧
      plan.condition = t.matchKeyword keyword none :=
  ⟨_, plan_eq_ok_iff.mpr ⟨t, ht, by simp, rfl⟩, rfl⟩

theorem ignoresSpaces_iff_finds {schema : SearchSchema} {table : String} {t : SearchTable}
    (ht : schema.get? table = some t) :
    schema.IgnoresSpaces table ↔
      ∀ keyword spaced : String, (∃ c ∈ keyword.toList, c ≠ ' ') →
        ReflTransGen Text.AddsSpace keyword.toList spaced.toList →
          ∀ row : TextRow, t.Finds row keyword none ↔ t.Finds row spaced none := by
  constructor
  · intro h keyword spaced hword hspaces row
    obtain ⟨plan, plan', hplan, hplan', hrows⟩ := h keyword spaced none hword hspaces
    obtain ⟨_, hkeyword, hcondition⟩ := plan_keyword ht keyword none
    obtain ⟨_, hspaced, hcondition'⟩ := plan_keyword ht spaced none
    cases hplan.symm.trans hkeyword
    cases hplan'.symm.trans hspaced
    have hrow := hrows (fun _ => .unknown) row
    rwa [hcondition, hcondition', t.truthIn_matchKeyword, t.truthIn_matchKeyword] at hrow
  · intro h keyword spaced limit hword hspaces
    obtain ⟨plan, hplan, hcondition⟩ := plan_keyword ht keyword limit
    obtain ⟨plan', hplan', hcondition'⟩ := plan_keyword ht spaced limit
    refine ⟨plan, plan', hplan, hplan', ?_⟩
    intro other row
    rw [hcondition, hcondition', t.truthIn_matchKeyword, t.truthIn_matchKeyword]
    exact h keyword spaced hword hspaces row

/-- A letter that is all of an exact column, in a row without other values, is not found once a
space stands in front of it. -/
theorem not_ignoresSpaces_of_mem_exactColumns {schema : SearchSchema} {table : String}
    {t : SearchTable} (ht : schema.get? table = some t) {column : String}
    (hexact : column ∈ t.exactColumns) (hsearchable : column ∈ t.searchable) :
    ¬ schema.IgnoresSpaces table := by
  intro h
  let row : TextRow := fun name => if name = column then some "M" else none
  have hspace := (ignoresSpaces_iff_finds ht).mp h "M" " M" ⟨'M', by decide, by decide⟩
    (.single (.front ['M'])) row
  have hletter : t.Finds row "M" none := by
    refine .inr fun word hword => ⟨column, hsearchable, ?_⟩
    rw [List.mem_singleton.mp (show word ∈ [['M']] from hword)]
    exact ⟨"M", if_pos rfl, by rw [if_pos hexact]⟩
  -- the empty piece asks for a column with a value, and the only one has to equal it
  have hwords : Text.words " M".toList ≠ [] := by decide
  obtain ⟨other, -, hempty⟩ :=
    ((SearchTable.finds_iff_words hwords).mp (hspace.mp hletter)).2 (by decide)
  obtain ⟨value, hvalue, hnone⟩ := SearchTable.foundIn_empty_iff.mp hempty
  by_cases hother : other = column
  · subst hother
    cases (if_pos rfl : row other = some "M").symm.trans hvalue
    exact absurd (hnone hexact) (by decide)
  · cases (if_neg hother : row other = none).symm.trans hvalue

/-- **The tables in which spaces make no difference** are those without an exact column. -/
theorem ignoresSpaces_iff {schema : SearchSchema} (hvalidate : schema.validate = .ok ())
    {table : String} {t : SearchTable} (ht : schema.get? table = some t) :
    schema.IgnoresSpaces table ↔ t.exactColumns = [] := by
  have hvalid := (validate_eq_ok_iff.mp hvalidate).get? ht
  constructor
  · intro h
    by_contra hne
    obtain ⟨column, hcolumn⟩ := List.exists_mem_of_ne_nil _ hne
    exact not_ignoresSpaces_of_mem_exactColumns ht hcolumn (hvalid.exact_searchable _ hcolumn) h
  · intro hexact
    rw [ignoresSpaces_iff_finds ht]
    intro keyword spaced hword hspaces row
    have hwords := Text.words_of_addsSpaces hspaces
    have hne := Text.words_ne_nil hword
    rw [SearchTable.finds_iff_of_exactColumns_eq_nil hexact hne,
      SearchTable.finds_iff_of_exactColumns_eq_nil hexact (hwords ▸ hne), hwords]

/-- Reviews can be typed with any spaces between their words. Pets cannot: their sex is exact. -/
theorem ignoresSpaces_iff_petShop :
    petShop.validate = .ok () ∧ petShop.IgnoresSpaces "Review" ∧ ¬ petShop.IgnoresSpaces "Pet" := by
  have hvalidate : petShop.validate = .ok () := rfl
  have hreview := ignoresSpaces_iff hvalidate (rfl : petShop.get? "Review" = some _)
  have hpet := ignoresSpaces_iff hvalidate (rfl : petShop.get? "Pet" = some _)
  exact ⟨hvalidate, hreview.mpr rfl, fun h => absurd (hpet.mp h) (by decide)⟩

/-- The letter is all that the row has. The space in front of it is looked for as nothing, which
the row does not have. -/
theorem letter_lost_behind_space :
    let schema : SearchSchema := ⟨[("t", ⟨["c"], [], ["c"]⟩)]⟩
    let row : TextRow := fun _ => some "M"
    schema.validate = .ok () ∧ Text.AddsSpace "M".toList " M".toList ∧
      ∃ plan plan', schema.plan ⟨"M", "t", none, none⟩ = .ok plan ∧
        schema.plan ⟨" M", "t", none, none⟩ = .ok plan' ∧
          ∀ other : Leaf → Truth,
            plan.condition.truthIn (Leaf.truthIn other row) = .true ∧
              plan'.condition.truthIn (Leaf.truthIn other row) = .false :=
  ⟨rfl, .front ['M'], _, _, rfl, rfl, fun _ => ⟨rfl, rfl⟩⟩

end SearchSchema

end DocumentSql
