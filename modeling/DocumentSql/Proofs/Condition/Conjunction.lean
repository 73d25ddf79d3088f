import DocumentSql.Proofs.Condition.Filter

/-!
# Columns side by side and the conjunction of them

Several columns side by side in a document say what the conjunction over one document for each
column says, wherever in a document they stand. The two are read differently and written
differently, and only the conjunction counts as one more combinator on the way down; the text
is the same.

* `Condition.translatesAt_combinator_iff`, `Condition.translatesAt_columns_iff`: the text of one
  level of a document.
* `Condition.translatesAt_conjunctionOf_iff`: the two spellings by themselves.
* `Condition.translatesAt_iff_of_spellsOut`: the two spellings anywhere in a document.
* `Condition.translation_of_spellsOut`: the two spellings have the same outcome.
-/

set_option autoImplicit false

namespace DocumentSql

/-- A list is related to another over a list in between where its members are. -/
theorem forall₂_exists_and_iff {α β γ : Type} {R : α → β → Prop} {S : β → γ → Prop}
    {as : List α} {cs : List γ} :
    List.Forall₂ (fun a c => ∃ b, R a b ∧ S b c) as cs ↔
      ∃ bs, List.Forall₂ R as bs ∧ List.Forall₂ S bs cs := by
  constructor
  · intro h
    induction h with
    | nil => exact ⟨[], .nil, .nil⟩
    | cons hac hrest ih =>
        obtain ⟨b, hab, hbc⟩ := hac
        obtain ⟨bs, habs, hbcs⟩ := ih
        exact ⟨b :: bs, .cons hab habs, .cons hbc hbcs⟩
  · rintro ⟨bs, habs, hbcs⟩
    induction habs generalizing cs with
    | nil =>
        rw [List.forall₂_nil_left_iff] at hbcs
        subst hbcs
        exact .nil
    | cons hab habs ih =>
        obtain ⟨c, cs', hbc, hrest, rfl⟩ := List.forall₂_cons_left_iff.mp hbcs
        exact .cons ⟨_, hab, hbc⟩ (ih hrest)

/-- One member of a list may be replaced by another that is related to the same. -/
theorem forall₂_append_cons_congr {α β : Type} {R : α → β → Prop} {a b : α}
    (h : ∀ c, R a c ↔ R b c) (front back : List α) (cs : List β) :
    List.Forall₂ R (front ++ a :: back) cs ↔ List.Forall₂ R (front ++ b :: back) cs := by
  induction front generalizing cs with
  | nil => simp only [List.nil_append, List.forall₂_cons_left_iff, h]
  | cons x front ih => simp only [List.cons_append, List.forall₂_cons_left_iff, ih]

/-! ## The two spellings -/

namespace Json

/-- The conjunction over one document for each member. -/
def conjunctionOf (members : List (String × Json)) : Json :=
  .object [("$and", .array (members.map fun m => .object [m]))]

/-- At one place in the first value an object has two or more members, none of them a combinator;
the second value has the conjunction of them there. -/
inductive SpellsOut : Json → Json → Prop where
  /-- The place is the value itself. -/
  | here {members : List (String × Json)} (htwo : 2 ≤ members.length)
      (hcolumns : ∀ m ∈ members, m.1 ∉ combinatorKeys) :
      SpellsOut (.object members) (conjunctionOf members)
  /-- The place is in an item of an array. -/
  | item (front back : List Json) {v w : Json} (h : SpellsOut v w) :
      SpellsOut (.array (front ++ v :: back)) (.array (front ++ w :: back))
  /-- The place is in a member of an object. -/
  | member (before : List (String × Json)) (key : String) (after : List (String × Json))
      {v w : Json} (h : SpellsOut v w) :
      SpellsOut (.object (before ++ (key, v) :: after)) (.object (before ++ (key, w) :: after))

theorem isOperand_object_iff {members : List (String × Json)} :
    IsOperand (.object members) ↔
      ∃ key v, key ∈ comparisonKeys ∧ v.IsScalar ∧ members = [(key, v)] := by
  constructor
  · rintro (⟨⟨⟩⟩ | ⟨hkey, h⟩)
    exact ⟨_, _, hkey, h, rfl⟩
  · rintro ⟨key, v, hkey, h, rfl⟩
    exact .comparison hkey h

/-- A member that stands beside no column is the array of a combinator. -/
theorem IsCondition.exists_array {members : List (String × Json)} {m : String × Json}
    (h : IsCondition (.object members)) (hm : m ∈ members) (hoperand : ¬ m.2.IsOperand) :
    members = [m] ∧ ∃ items, m.2 = .array items := by
  cases h with
  | combinator hkey hne hitems =>
      rw [List.mem_singleton] at hm
      subst hm
      exact ⟨rfl, _, rfl⟩
  | columns hkeys hvalues => exact absurd (hvalues m hm) hoperand

namespace SpellsOut

/-- In a combinator over an array, the place is in an item of the array. -/
theorem exists_item {key : String} {items : List Json} {w : Json}
    (h : SpellsOut (.object [(key, .array items)]) w) :
    ∃ front x y back, x.SpellsOut y ∧ items = front ++ x :: back ∧
      w = .object [(key, .array (front ++ y :: back))] := by
  generalize hv : Json.object [(key, .array items)] = v at h
  cases h with
  | here htwo hcolumns =>
      cases hv
      simp at htwo
  | item => cases hv
  | member before key' after h =>
      rw [object.injEq, List.singleton_eq_append_iff] at hv
      rcases hv with ⟨rfl, hv⟩ | ⟨-, hv⟩
      · cases hv
        cases h with
        | item front back h => exact ⟨front, _, _, back, h, rfl, rfl⟩
      · cases hv

/-- Only an array becomes an array. -/
theorem isArray_iff {v w : Json} (h : v.SpellsOut w) :
    (∃ items, v = .array items) ↔ ∃ items, w = .array items := by
  cases h <;> simp [conjunctionOf]

theorem not_isScalar {v w : Json} (h : v.SpellsOut w) : ¬ v.IsScalar ∧ ¬ w.IsScalar := by
  cases h <;> exact ⟨by rintro ⟨⟩, by rintro ⟨⟩⟩

/-- A column is compared to no value with the place in it. -/
theorem not_isOperand {v w : Json} (h : v.SpellsOut w) : ¬ v.IsOperand ∧ ¬ w.IsOperand := by
  cases h with
  | here htwo hcolumns =>
      rw [conjunctionOf, isOperand_object_iff, isOperand_object_iff]
      constructor
      · rintro ⟨key, x, -, -, rfl⟩
        simp at htwo
      · rintro ⟨key, x, -, hscalar, heq⟩
        cases heq
        cases hscalar
  | item front back h => exact ⟨not_isOperand_array _, not_isOperand_array _⟩
  | member before key after h =>
      have hmember : ∀ x : Json, ¬ x.IsScalar →
          ¬ IsOperand (.object (before ++ (key, x) :: after)) := by
        intro x hx
        rw [isOperand_object_iff]
        rintro ⟨key', y, -, hscalar, heq⟩
        rcases List.append_eq_singleton_iff.mp heq with ⟨-, heq⟩ | ⟨-, heq⟩
        · cases heq
          exact hx hscalar
        · cases heq
      exact ⟨hmember _ h.not_isScalar.1, hmember _ h.not_isScalar.2⟩

/-- Where the place is in a member of an object that is no combinator over an array, the object
describes no condition. -/
theorem not_isCondition_member {before after : List (String × Json)} {key : String} {v w : Json}
    (h : v.SpellsOut w)
    (hother : ∀ key' items,
      Json.object (before ++ (key, v) :: after) ≠ .object [(key', .array items)]) :
    ¬ IsCondition (.object (before ++ (key, v) :: after)) ∧
      ¬ IsCondition (.object (before ++ (key, w) :: after)) := by
  have hnone : ∀ x : Json, ¬ x.IsOperand →
      ((∃ items, v = .array items) ↔ ∃ items, x = .array items) →
        ¬ IsCondition (.object (before ++ (key, x) :: after)) := by
    intro x hoperand harray hx
    obtain ⟨hsingle, hitems⟩ := hx.exists_array (m := (key, x)) (by simp) hoperand
    obtain ⟨items, rfl⟩ := harray.mpr hitems
    obtain ⟨rfl, rfl⟩ : before = [] ∧ after = [] := by
      simpa [List.append_eq_singleton_iff] using hsingle
    exact hother key items rfl
  exact ⟨hnone v h.not_isOperand.1 Iff.rfl, hnone w h.not_isOperand.2 h.isArray_iff⟩

end SpellsOut

end Json

namespace Condition

open Json

/-! ## One level of a document -/

/-- The document is read under `depth` combinators, and its condition has the text. -/
def TranslatesAt (depth : Nat) (v : Json) (text : String) : Prop :=
  ∃ c, ofJsonAt depth v = .ok c ∧ bodyAt depth c = .ok text

theorem TranslatesAt.isCondition {depth : Nat} {v : Json} {text : String}
    (h : TranslatesAt depth v text) : v.IsCondition := by
  obtain ⟨c, hread, -⟩ := h
  exact ((ofJsonAt_accepts_iff depth v).mp ⟨c, hread⟩).1

theorem TranslatesAt.nesting_le {depth : Nat} {v : Json} {text : String}
    (h : TranslatesAt depth v text) : depth + v.nesting ≤ deepestCondition := by
  obtain ⟨c, hread, -⟩ := h
  exact ((ofJsonAt_accepts_iff depth v).mp ⟨c, hread⟩).2

theorem TranslatesAt.depth_le {depth : Nat} {v : Json} {text : String}
    (h : TranslatesAt depth v text) : depth ≤ deepestCondition := by
  have hdeep := h.nesting_le
  omega

/-- **A combinator** has the texts of its items, joined. -/
theorem translatesAt_combinator_iff {depth : Nat} {connective : Connective} {items : List Json}
    {text : String} :
    TranslatesAt depth (.object [(connective.key, .array items)]) text ↔
      depth ≤ deepestCondition ∧ items ≠ [] ∧
        ∃ parts, List.Forall₂ (fun item part => TranslatesAt (depth + 1) item part ∧ part ≠ "")
          items parts ∧ joinParts connective parts = text := by
  constructor
  · intro h
    have hdepth := h.depth_le
    obtain ⟨c, hread, htext⟩ := h
    obtain ⟨hne, operands, hitems, rfl⟩ := (ofJsonAt_combinator_eq_ok_iff hdepth).mp hread
    obtain ⟨-, -, parts, hparts, hjoined⟩ := (bodyAt_group_eq_ok_iff ..).mp htext
    have htexts := forall₂_exists_and_iff.mpr ⟨operands, hitems, hparts⟩
    refine ⟨hdepth, hne, parts, htexts.imp ?_, hjoined⟩
    rintro item part ⟨d, hd, hpart, hpartne⟩
    exact ⟨⟨d, hd, hpart⟩, hpartne⟩
  · rintro ⟨hdepth, hne, parts, hparts, hjoined⟩
    have htexts : List.Forall₂ (fun item part => ∃ d, ofJsonAt (depth + 1) item = .ok d ∧
        IsOperandText (depth + 1) d part) items parts := by
      refine hparts.imp ?_
      rintro item part ⟨⟨d, hd, hpart⟩, hpartne⟩
      exact ⟨d, hd, hpart, hpartne⟩
    obtain ⟨operands, hitems, hoperands⟩ := forall₂_exists_and_iff.mp htexts
    have hsome : operands ≠ [] := mt (eq_nil_iff_of_forall₂ hitems).mpr hne
    exact ⟨.group connective operands,
      (ofJsonAt_combinator_eq_ok_iff hdepth).mpr ⟨hne, operands, hitems, rfl⟩,
      (bodyAt_group_eq_ok_iff ..).mpr ⟨hdepth, hsome, parts, hoperands, hjoined⟩⟩

theorem bodyAt_ofLeaves {depth : Nat} (h : depth ≤ deepestCondition) (leaves : List Leaf) :
    bodyAt depth (ofLeaves leaves) = .ok (leavesBody leaves) := by
  match leaves with
  | [] => exact bodyAt_empty h
  | [l] => exact bodyAt_leaf h l
  | l :: m :: ls => exact bodyAt_fields h _

/-- **Columns** have the text of their comparisons. -/
theorem translatesAt_columns_iff {depth : Nat} {members : List (String × Json)}
    (hcolumns : ∀ m ∈ members, m.1 ∉ combinatorKeys) {text : String} :
    TranslatesAt depth (.object members) text ↔
      depth ≤ deepestCondition ∧ ∃ leaves, (∀ l ∈ leaves, ¬ IsReserved l.column) ∧
        members = leaves.map Leaf.member ∧ leavesBody leaves = text := by
  have hnone : ∀ m ∈ members, Connective.ofKey? m.1 = none := by
    intro m hm
    by_contra hkey
    exact hcolumns m hm ((Connective.ofKey?_ne_none_iff m.1).mp hkey)
  constructor
  · intro h
    have hdepth := h.depth_le
    obtain ⟨c, hread, htext⟩ := h
    rw [ofJsonAt_eq_ofColumns hdepth hnone] at hread
    obtain ⟨leaves, hkeys, hmembers, rfl⟩ := ofColumns_eq_ok_iff.mp hread
    rw [bodyAt_ofLeaves hdepth, Except.ok.injEq] at htext
    exact ⟨hdepth, leaves, hkeys, hmembers, htext⟩
  · rintro ⟨hdepth, leaves, hkeys, rfl, rfl⟩
    exact ⟨_, ofJsonAt_columns hdepth hkeys, bodyAt_ofLeaves hdepth leaves⟩

/-! ## Columns and their conjunction -/

/-- A document of one column has the text of one comparison, which is not empty. -/
theorem translatesAt_column_iff {depth : Nat} (hdepth : depth ≤ deepestCondition)
    {m : String × Json} (hm : m.1 ∉ combinatorKeys) {part : String} :
    (TranslatesAt depth (.object [m]) part ∧ part ≠ "") ↔
      ∃ l : Leaf, ¬ IsReserved l.column ∧ m = l.member ∧ l.sql = part := by
  rw [translatesAt_columns_iff (by simpa using hm)]
  constructor
  · rintro ⟨⟨-, leaves, hkeys, hmember, rfl⟩, -⟩
    obtain ⟨l, rfl, rfl⟩ := List.map_eq_singleton_iff.mp hmember.symm
    exact ⟨l, hkeys l List.mem_cons_self, rfl, rfl⟩
  · rintro ⟨l, hkey, rfl, rfl⟩
    exact ⟨⟨hdepth, [l], by simpa using hkey, rfl, rfl⟩, by simpa using isEmpty_sql l⟩

/-- Documents of one column each have the texts of as many comparisons. -/
theorem forall₂_columns_iff {depth : Nat} (hdepth : depth ≤ deepestCondition)
    {members : List (String × Json)} (hcolumns : ∀ m ∈ members, m.1 ∉ combinatorKeys)
    {parts : List String} :
    List.Forall₂ (fun item part => TranslatesAt depth item part ∧ part ≠ "")
        (members.map fun m => .object [m]) parts ↔
      ∃ leaves : List Leaf, (∀ l ∈ leaves, ¬ IsReserved l.column) ∧
        members = leaves.map Leaf.member ∧ leaves.map Leaf.sql = parts := by
  rw [List.forall₂_map_left_iff]
  constructor
  · intro h
    induction h with
    | nil => exact ⟨[], by simp⟩
    | cons hpart hrest ih =>
        obtain ⟨hm, hmembers⟩ := List.forall_mem_cons.mp hcolumns
        obtain ⟨l, hkey, rfl, rfl⟩ := (translatesAt_column_iff hdepth hm).mp hpart
        obtain ⟨leaves, hkeys, rfl, rfl⟩ := ih hmembers
        exact ⟨l :: leaves, List.forall_mem_cons.mpr ⟨hkey, hkeys⟩, rfl, rfl⟩
  · rintro ⟨leaves, hkeys, rfl, rfl⟩
    rw [List.forall₂_map_left_iff, List.forall₂_map_right_iff, List.forall₂_same]
    intro l hl
    have hcolumn := hcolumns l.member (List.mem_map_of_mem hl)
    exact (translatesAt_column_iff hdepth hcolumn).mpr ⟨l, hkeys l hl, rfl, rfl⟩

theorem leavesBody_eq_joinParts {leaves : List Leaf} (h : 2 ≤ leaves.length) :
    leavesBody leaves = joinParts .and (leaves.map Leaf.sql) := by
  match leaves with
  | l :: m :: ls => rfl

/-- **Several columns and their conjunction** have the same text, where the conjunction is not
too deep. -/
theorem translatesAt_conjunctionOf_iff {depth : Nat} (hdepth : depth + 1 ≤ deepestCondition)
    {members : List (String × Json)} (htwo : 2 ≤ members.length)
    (hcolumns : ∀ m ∈ members, m.1 ∉ combinatorKeys) {text : String} :
    TranslatesAt depth (.object members) text ↔
      TranslatesAt depth (conjunctionOf members) text := by
  have hconjunction : conjunctionOf members =
      .object [(Connective.and.key, .array (members.map fun m => .object [m]))] := rfl
  rw [hconjunction, translatesAt_combinator_iff, translatesAt_columns_iff hcolumns]
  constructor
  · rintro ⟨hle, leaves, hkeys, hmembers, rfl⟩
    have hlength : 2 ≤ leaves.length := by simpa [hmembers] using htwo
    have hne : members ≠ [] := List.length_pos_iff.mp (by omega)
    have htexts := (forall₂_columns_iff hdepth hcolumns).mpr ⟨leaves, hkeys, hmembers, rfl⟩
    exact ⟨hle, by simpa using hne, _, htexts, (leavesBody_eq_joinParts hlength).symm⟩
  · rintro ⟨hle, -, parts, htexts, rfl⟩
    obtain ⟨leaves, hkeys, rfl, rfl⟩ := (forall₂_columns_iff hdepth hcolumns).mp htexts
    exact ⟨hle, leaves, hkeys, rfl, leavesBody_eq_joinParts (by simpa using htwo)⟩

/-! ## Anywhere in a document -/

/-- The two spellings in an item of an array stand under the same combinator. -/
theorem translatesAt_item_iff {depth : Nat} (connective : Connective) (front back : List Json)
    {x y : Json}
    (h : ∀ part, TranslatesAt (depth + 1) x part ↔ TranslatesAt (depth + 1) y part)
    {text : String} :
    TranslatesAt depth (.object [(connective.key, .array (front ++ x :: back))]) text ↔
      TranslatesAt depth (.object [(connective.key, .array (front ++ y :: back))]) text := by
  have hparts : ∀ parts, List.Forall₂ (fun item part => TranslatesAt (depth + 1) item part ∧
        part ≠ "") (front ++ x :: back) parts ↔
      List.Forall₂ (fun item part => TranslatesAt (depth + 1) item part ∧ part ≠ "")
        (front ++ y :: back) parts := by
    refine forall₂_append_cons_congr ?_ front back
    intro part
    rw [h part]
  rw [translatesAt_combinator_iff, translatesAt_combinator_iff]
  simp only [hparts, ne_eq, List.append_eq_nil_iff, reduceCtorEq, and_false]

/-- **The two spellings anywhere in a document** have the same text, where the combinators do
not nest too deep. -/
theorem translatesAt_iff_of_spellsOut {depth : Nat} {v w : Json} (h : v.SpellsOut w)
    (hdeep : depth + w.nesting ≤ deepestCondition) {text : String} :
    TranslatesAt depth v text ↔ TranslatesAt depth w text := by
  induction v using Json.combinatorInduction generalizing w depth text with
  | combinator key items ih =>
      obtain ⟨front, x, y, back, hxy, rfl, rfl⟩ := h.exists_item
      by_cases hkey : key ∈ combinatorKeys
      · obtain ⟨connective, rfl⟩ := Connective.exists_key_eq hkey
        have hitems : depth + 1 + nestingOf (front ++ y :: back) ≤ deepestCondition := by
          rw [nesting_combinator hkey] at hdeep
          omega
        have hy := (add_nestingOf_le_iff (by simp) _ _).mp hitems y (by simp)
        exact translatesAt_item_iff connective front back fun part =>
          ih x (by simp) hxy hy
      · refine iff_of_false (fun hv => ?_) (fun hw => ?_)
        · exact hkey ((isCondition_combinator_iff ..).mp hv.isCondition).1
        · exact hkey ((isCondition_combinator_iff ..).mp hw.isCondition).1
  | other v hother =>
      cases h with
      | here htwo hcolumns =>
          rw [conjunctionOf, nesting_combinator (by simp [combinatorKeys])] at hdeep
          exact translatesAt_conjunctionOf_iff (by omega) htwo hcolumns
      | item front back hxy =>
          refine iff_of_false (fun hv => ?_) (fun hw => ?_)
          · cases hv.isCondition
          · cases hw.isCondition
      | member before key after hxy =>
          obtain ⟨hv, hw⟩ := hxy.not_isCondition_member hother
          exact iff_of_false (fun h => hv h.isCondition) (fun h => hw h.isCondition)

/-! ## Outcomes -/

/-- The clause of the condition that a document describes. -/
def translation (v : Json) : Except QueryError String := do
  let c ← QueryError.ofSchema (ofJson v)
  QueryError.ofSchema c.whereClause

theorem translation_eq_ok_iff {v : Json} {clause : String} :
    translation v = .ok clause ↔
      ∃ text, TranslatesAt 0 v text ∧ clause = if text = "" then "" else "WHERE " ++ text := by
  simp only [translation, bind_eq_ok_iff, ofSchema_eq_ok_iff, whereClause_eq_ok_iff,
    TranslatesAt]
  constructor
  · rintro ⟨c, hread, text, htext, hclause⟩
    exact ⟨text, ⟨c, hread, htext⟩, hclause⟩
  · rintro ⟨text, ⟨c, hread, htext⟩, hclause⟩
    exact ⟨c, hread, text, htext, hclause⟩

/-- A document without a clause violates the schema. -/
theorem translation_eq_error (v : Json) (h : ∀ clause, translation v ≠ .ok clause) :
    ∃ fault, translation v = .error (.schema fault) := by
  cases hread : ofJson v with
  | error fault => exact ⟨fault, by rw [translation, hread]; rfl⟩
  | ok c =>
      cases hclause : c.whereClause with
      | error fault =>
          exact ⟨fault, by simp [translation, QueryError.ofSchema, hread, hclause, bind,
            Except.bind]⟩
      | ok clause =>
          have hok : translation v = .ok clause := by
            simp [translation, QueryError.ofSchema, hread, hclause, bind, Except.bind]
          exact absurd hok (h clause)

theorem nesting_le_of_translation {v : Json} {clause : String} (h : translation v = .ok clause) :
    v.nesting ≤ 64 := by
  obtain ⟨text, htext, -⟩ := translation_eq_ok_iff.mp h
  simpa [deepestCondition] using htext.nesting_le

theorem translation_eq_ok_iff_of_spellsOut {v w : Json} (h : v.SpellsOut w)
    (hnesting : w.nesting ≤ 64) {clause : String} :
    translation v = .ok clause ↔ translation w = .ok clause := by
  have hdeep : 0 + w.nesting ≤ deepestCondition := by simpa [deepestCondition] using hnesting
  simp only [translation_eq_ok_iff, translatesAt_iff_of_spellsOut h hdeep]

/-- **Several columns side by side and the conjunction of them have the same outcome**, wherever
in a document they stand: the same clause, or a violation of the schema. They differ only where
the conjunction makes the document nest more than 64 combinators. -/
theorem translation_of_spellsOut {v w : Json} (h : v.SpellsOut w) :
    (∃ clause, translation v = .ok clause ∧ translation w = .ok clause) ∨
      (∃ fault fault', translation v = .error (.schema fault) ∧
        translation w = .error (.schema fault')) ∨
      (v.nesting ≤ 64 ∧ 64 < w.nesting ∧ ∃ clause fault, translation v = .ok clause ∧
        translation w = .error (.schema fault)) := by
  by_cases hw : ∃ clause, translation w = .ok clause
  · obtain ⟨clause, hw⟩ := hw
    have hnesting := nesting_le_of_translation hw
    exact .inl ⟨clause, (translation_eq_ok_iff_of_spellsOut h hnesting).mpr hw, hw⟩
  · rw [not_exists] at hw
    obtain ⟨fault', hw'⟩ := translation_eq_error w hw
    by_cases hv : ∃ clause, translation v = .ok clause
    · obtain ⟨clause, hv⟩ := hv
      -- the clause would be that of the conjunction as well
      have hover : ¬ w.nesting ≤ 64 := fun hnesting =>
        hw clause ((translation_eq_ok_iff_of_spellsOut h hnesting).mp hv)
      exact .inr (.inr ⟨nesting_le_of_translation hv, by omega, clause, fault', hv, hw'⟩)
    · rw [not_exists] at hv
      obtain ⟨fault, hv'⟩ := translation_eq_error v hv
      exact .inr (.inl ⟨fault, fault', hv', hw'⟩)

/-- Two columns under a disjunction, the second one compared by an operator. -/
theorem translation_of_spellsOut_nested :
    let v : Json := .object [("$or", .array [.object [("a", .null)],
      .object [("b", .string "x"), ("c", .object [("$ne", .string "y")])]])]
    let w : Json := .object [("$or", .array [.object [("a", .null)],
      .object [("$and", .array [.object [("b", .string "x")],
        .object [("c", .object [("$ne", .string "y")])]])]])]
    let clause := "WHERE (`a` = NULL) OR ((`b` = \"x\") AND (`c` != \"y\"))"
    v.SpellsOut w ∧ w.nesting = 2 ∧ translation v = .ok clause ∧ translation w = .ok clause := by
  intro v w clause
  have hplace : v.SpellsOut w :=
    .member [] "$or" [] (.item [.object [("a", .null)]] []
      (.here (by decide) (by simp [combinatorKeys])))
  have hnesting : w.nesting = 2 := by simp [w, nesting, nestingOf, combinatorKeys]
  have hv : translation v = .ok clause := rfl
  obtain ⟨clause', hv', hw⟩ | ⟨fault, fault', hv', -⟩ | ⟨-, hover, -⟩ :=
    translation_of_spellsOut hplace
  · rw [hv, Except.ok.injEq] at hv'
    subst hv'
    exact ⟨hplace, hnesting, hv, hw⟩
  · rw [hv] at hv'
    cases hv'
  · omega

end Condition

end DocumentSql
