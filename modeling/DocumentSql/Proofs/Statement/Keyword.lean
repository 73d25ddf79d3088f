import DocumentSql.Proofs.Statement.Kind
import Mathlib.Data.List.Forall2
import Mathlib.Data.List.TakeWhile

/-!
# Texts that begin with a keyword

The kind of a text is that of the word it begins with, behind blanks and opening parentheses and
in whatever case its letters are. A word that goes on with another letter is another word, and a
text that begins with none of the four words is of no kind in particular.

* `StatementKind.keyword_eq_iff_beginsWith`: the texts with a given keyword.
* `StatementKind.ofSql_iff_beginsWith`: the texts of each kind, those of statements among them.
-/

set_option autoImplicit false

namespace DocumentSql.StatementKind

/-- The word that the statements of a kind begin with. The other statements have none in common. -/
def word? : StatementKind → Option String
  | .select => some "SELECT"
  | .insert => some "INSERT"
  | .update => some "UPDATE"
  | .delete => some "DELETE"
  | .other => none

/-- The letters are those of a word, each in either case. -/
def IsSpelling (written word : List Char) : Prop :=
  List.Forall₂ (fun c letter => c = letter ∨ c = letter.toLower) written word

/-- The text begins with the word: behind blanks and opening parentheses stand its letters, each
in either case, and no letter of ASCII follows them. -/
def BeginsWith (word sql : String) : Prop :=
  ∃ lead written rest, sql.toList = lead ++ written ++ rest ∧
    (∀ c ∈ lead, Text.isBlank c ∨ c = '(') ∧ IsSpelling written word.toList ∧
    ∀ c ∈ rest.head?, ¬ isLetter c

/-! ## Letters -/

theorem isUpper_iff (c : Char) : c.isUpper ↔ 65 ≤ c.toNat ∧ c.toNat ≤ 90 := by
  show decide ('A'.val ≤ c.val ∧ c.val ≤ 'Z'.val) = true ↔ _
  rw [decide_eq_true_iff, UInt32.le_iff_toNat_le, UInt32.le_iff_toNat_le]
  rfl

theorem isLower_iff (c : Char) : c.isLower ↔ 97 ≤ c.toNat ∧ c.toNat ≤ 122 := by
  show (decide ('a'.val ≤ c.val) && decide (c.val ≤ 'z'.val)) = true ↔ _
  rw [Bool.and_eq_true, decide_eq_true_iff, decide_eq_true_iff, UInt32.le_iff_toNat_le,
    UInt32.le_iff_toNat_le]
  rfl

/-- A capital stands 32 places before its small letter. -/
theorem toNat_toUpper (c : Char) :
    c.toUpper.toNat = if c.isLower then c.toNat - 32 else c.toNat := by
  have hcode := isLower_iff c
  by_cases h : 'a'.val ≤ c.val ∧ c.val ≤ 'z'.val
  · have hupper : c.toUpper = ⟨c.val + ('A'.val - 'a'.val), _⟩ := dif_pos h
    have hsmall : 97 ≤ c.toNat ∧ c.toNat ≤ 122 := h
    rw [hupper, if_pos (hcode.mpr hsmall)]
    show (c.val + ('A'.val - 'a'.val)).toNat = c.toNat - 32
    rw [UInt32.toNat_add, Char.toNat_val]
    simp only [Char.reduceVal, UInt32.reduceSub, UInt32.reduceToNat]
    omega
  · have hupper : c.toUpper = c := dif_neg h
    rw [hupper, if_neg (mt hcode.mp h)]

theorem toNat_toLower_of_isUpper {c : Char} (h : c.isUpper) : c.toLower.toNat = c.toNat + 32 := by
  have hcode := (isUpper_iff c).mp h
  have hlower : c.toLower = ⟨c.val + ('a'.val - 'A'.val), _⟩ := dif_pos hcode
  rw [hlower]
  show (c.val + ('a'.val - 'A'.val)).toNat = c.toNat + 32
  rw [UInt32.toNat_add, Char.toNat_val]
  simp only [Char.reduceVal, UInt32.reduceSub, UInt32.reduceToNat]
  omega

/-- A capital letter is that of its small letter and of itself. -/
theorem toUpper_eq_iff {c letter : Char} (hletter : letter.isUpper) :
    c.toUpper = letter ↔ c = letter ∨ c = letter.toLower := by
  have hcode := (isUpper_iff letter).mp hletter
  rw [← Char.toNat_inj, ← Char.toNat_inj, ← Char.toNat_inj, toNat_toUpper,
    toNat_toLower_of_isUpper hletter]
  by_cases h : c.isLower
  · have hsmall := (isLower_iff c).mp h
    rw [if_pos h]
    omega
  · have hother := mt (isLower_iff c).mpr h
    rw [if_neg h]
    omega

theorem map_toUpper_eq_iff {written word : List Char} (hword : ∀ c ∈ word, c.isUpper) :
    written.map Char.toUpper = word ↔ IsSpelling written word := by
  unfold IsSpelling
  induction word generalizing written with
  | nil => simp
  | cons letter word ih =>
      cases written with
      | nil => simp
      | cons c written =>
          have hletter : letter.isUpper := hword letter List.mem_cons_self
          have hrest : ∀ d ∈ word, d.isUpper := fun d hd => hword d (List.mem_cons_of_mem _ hd)
          rw [List.map_cons, List.cons.injEq, List.forall₂_cons, toUpper_eq_iff hletter, ih hrest]

/-- What spells a word of capitals is made of letters. -/
theorem isLetter_of_isSpelling {written word : List Char} (hword : ∀ c ∈ word, c.isUpper)
    (h : IsSpelling written word) : ∀ c ∈ written, isLetter c := by
  intro c hc
  rw [← map_toUpper_eq_iff hword] at h
  have hupper : c.toUpper.isUpper := hword _ (h ▸ List.mem_map_of_mem hc)
  rw [isLetter, Bool.or_eq_true]
  by_cases hlower : c.isLower
  · exact .inr hlower
  · rw [isUpper_iff, toNat_toUpper, if_neg hlower, ← isUpper_iff] at hupper
    exact .inl hupper

/-! ## Keywords -/

theorem isLead_iff {c : Char} : isLead c ↔ Text.isBlank c ∨ c = '(' := by
  simp [isLead]

/-- **The keyword of a text** is the word of capitals that the text begins with. -/
theorem keyword_eq_iff_beginsWith {word : String} (hne : word.toList ≠ [])
    (hword : ∀ c ∈ word.toList, c.isUpper) (sql : String) :
    keyword sql.toList = word.toList ↔ BeginsWith word sql := by
  constructor
  · intro h
    have hspelling := (map_toUpper_eq_iff hword).mp h
    refine ⟨sql.toList.takeWhile isLead, _, (sql.toList.dropWhile isLead).dropWhile isLetter,
      ?_, ?_, hspelling, ?_⟩
    · rw [List.append_assoc, List.takeWhile_append_dropWhile, List.takeWhile_append_dropWhile]
    · intro c hc
      exact isLead_iff.mp (List.mem_takeWhile_imp hc)
    · intro c hc
      have hnot := List.head?_dropWhile_not isLetter (sql.toList.dropWhile isLead)
      rw [Option.mem_def.mp hc] at hnot
      simpa using hnot
  · rintro ⟨lead, written, rest, hsql, hlead, hspelling, hrest⟩
    have hwritten : written ≠ [] := by
      rintro rfl
      cases hword' : word.toList with
      | nil => exact hne hword'
      | cons letter letters =>
          rw [hword'] at hspelling
          cases hspelling
    have hskip : keyword (lead ++ (written ++ rest)) = keyword (written ++ rest) := by
      rw [keyword, keyword, List.dropWhile_append_of_pos fun c hc => isLead_iff.mpr (hlead c hc)]
    have hletters := isLetter_of_isSpelling hword hspelling
    rw [hsql, List.append_assoc, hskip,
      keyword_append hwritten hletters fun c hc => by simpa using hrest c hc]
    exact (map_toUpper_eq_iff hword).mpr hspelling

/-- Each of the four words is the keyword of its own kind only. -/
theorem ofKeyword_eq_iff {kind : StatementKind} {word : String} (h : kind.word? = some word)
    (cs : List Char) : ofKeyword cs = kind ↔ cs = word.toList := by
  constructor
  · intro hkind
    unfold ofKeyword at hkind
    split_ifs at hkind <;> subst hkind <;> cases h <;> assumption
  · rintro rfl
    cases kind <;> cases h <;> decide

theorem exists_word?_eq_some {kind : StatementKind} (h : kind ≠ .other) :
    ∃ word, kind.word? = some word := by
  cases kind with
  | other => exact absurd rfl h
  | _ => exact ⟨_, rfl⟩

/-- The words consist of capitals. -/
theorem isUpper_of_word? {kind : StatementKind} {word : String} (h : kind.word? = some word) :
    word.toList ≠ [] ∧ ∀ c ∈ word.toList, c.isUpper := by
  cases kind <;> cases h <;> simp

theorem ofSql_eq_iff_beginsWith {kind : StatementKind} {word : String}
    (h : kind.word? = some word) (sql : String) : ofSql sql = kind ↔ BeginsWith word sql := by
  obtain ⟨hne, hcapitals⟩ := isUpper_of_word? h
  rw [ofSql, ofKeyword_eq_iff h, keyword_eq_iff_beginsWith hne hcapitals]

/-- **The texts of each kind.** A text is of one of the four kinds exactly when it begins with the
word of that kind, and of no kind in particular when it begins with none of the words. So the text
of a statement, whatever names and values it holds, is of the kind of the statement. -/
theorem ofSql_iff_beginsWith :
    (∀ (sql : String) (kind : StatementKind) (word : String), kind.word? = some word →
      (ofSql sql = kind ↔ BeginsWith word sql)) ∧
    (∀ sql, ofSql sql = .other ↔
      ∀ (kind : StatementKind) (word : String), kind.word? = some word → ¬ BeginsWith word sql) ∧
    ∀ (s : Statement) (text : String), s.compile = .ok text → ofSql text = s.kind := by
  refine ⟨fun sql kind word hword => ofSql_eq_iff_beginsWith hword sql, fun sql => ⟨?_, ?_⟩,
    fun s text h => ofSql_of_compile h⟩
  · intro hother kind word hword hbegins
    rw [← ofSql_eq_iff_beginsWith hword, hother] at hbegins
    subst hbegins
    cases hword
  · intro hnone
    by_contra hne
    obtain ⟨word, hword⟩ := exists_word?_eq_some hne
    exact hnone _ word hword ((ofSql_eq_iff_beginsWith hword sql).mp rfl)

/-- A keyword in mixed case behind an ideographic space and a parenthesis, and the text of a
statement on a table whose name is another keyword. -/
theorem ofSql_iff_beginsWith_mixedCase :
    word? .select = some "SELECT" ∧ ofSql "\u3000(sElEcT*" = .select ∧
      BeginsWith "SELECT" "\u3000(sElEcT*" ∧
      (Statement.delete (.plain "select") .empty).compile = .ok "DELETE FROM `select`" ∧
      ofSql "DELETE FROM `select`" = .delete :=
  ⟨rfl, by decide, (ofSql_iff_beginsWith.1 _ .select "SELECT" rfl).mp (by decide), rfl,
    ofSql_iff_beginsWith.2.2 (.delete (.plain "select") .empty) _ rfl⟩

end DocumentSql.StatementKind
