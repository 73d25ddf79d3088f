import DocumentSql.Proofs.Condition.Document
import DocumentSql.Proofs.Json.Settled

/-!
# The comparisons written in a document

A column with what it is compared to may stand on the outermost level of a document or under its
combinators. Of members with the same key the last one counts. The comparisons of a condition are
those that count in the document it was written as.

* `Condition.mem_leaves_iff_compares`: the comparisons that count.
* `Condition.exists_mem_leaves_of_hasColumn`: each column that counts has its comparison.
-/

set_option autoImplicit false

namespace DocumentSql

open Entries

namespace Json

/-! ## Columns and comparisons -/

variable {Counts : List (String × Json) → String → Json → Prop}

/-- The column stands in a document, on its outermost level or under combinators, and the value
beside it. Of the members of objects, those that count are looked at. -/
inductive HasColumn (Counts : List (String × Json) → String → Json → Prop) :
    Json → String → Json → Prop where
  | here {members : List (String × Json)} {column : String} {value : Json}
      (hcolumn : ¬ IsReserved column) (h : Counts members column value) :
      HasColumn Counts (.object members) column value
  | under {members : List (String × Json)} {connective : Connective} {items : List Json}
      {item : Json} {column : String} {value : Json}
      (h : Counts members connective.key (.array items)) (hitem : item ∈ items)
      (hin : HasColumn Counts item column value) : HasColumn Counts (.object members) column value

/-- What stands beside the column compares it: it is a scalar, or an object with an operator and a
scalar that count. -/
inductive IsComparison (Counts : List (String × Json) → String → Json → Prop) (column : String) :
    Json → Leaf → Prop where
  | equality (value : Scalar) : IsComparison Counts column value.json ⟨column, .eq, value⟩
  | operator {operators : List (String × Json)} {key : String} {comparison : Comparison}
      {value : Scalar} (hkey : Comparison.ofKey? key = some comparison)
      (h : Counts operators key value.json) :
      IsComparison Counts column (.object operators) ⟨column, comparison, value⟩

/-- The comparison stands in the document. -/
def Compares (Counts : List (String × Json) → String → Json → Prop) (v : Json) (l : Leaf) : Prop :=
  ∃ column value, v.HasColumn Counts column value ∧ IsComparison Counts column value l

theorem hasColumn_object_iff {members : List (String × Json)} {column : String} {value : Json} :
    HasColumn Counts (.object members) column value ↔
      (¬ IsReserved column ∧ Counts members column value) ∨
        ∃ connective : Connective, ∃ items, Counts members connective.key (.array items) ∧
          ∃ item ∈ items, item.HasColumn Counts column value := by
  constructor
  · rintro (⟨hcolumn, h⟩ | ⟨h, hitem, hin⟩)
    · exact .inl ⟨hcolumn, h⟩
    · exact .inr ⟨_, _, h, _, hitem, hin⟩
  · rintro (⟨hcolumn, h⟩ | ⟨connective, items, h, item, hitem, hin⟩)
    · exact .here hcolumn h
    · exact .under h hitem hin

/-! ## What the reader keeps of them -/

theorem isMember_settle_iff {members : List (String × Json)} {key : String} {v : Json} :
    IsMember (Entries.settle (members.map (Prod.map id settle))) key v ↔
      ∃ value, IsLast members key value ∧ value.settle = v := by
  rw [IsMember, mem_settle_iff, isLast_map_iff]

theorem settle_eq_object_iff {v : Json} {members : List (String × Json)} :
    v.settle = .object members ↔ ∃ written, v = .object written ∧
      Entries.settle (written.map (Prod.map id settle)) = members := by
  cases v <;> simp [settle, settleValues_eq_map]

theorem settle_eq_array_iff {v : Json} {items : List Json} :
    v.settle = .array items ↔ ∃ written, v = .array written ∧ written.map settle = items := by
  cases v <;> simp [settle, settleItems_eq_map]

theorem settle_eq_json_iff {v : Json} {s : Scalar} : v.settle = s.json ↔ v = s.json := by
  cases v <;> cases s <;> simp [settle, Scalar.json]

theorem hasColumn_settle_iff {v : Json} {column : String} {value : Json} :
    v.settle.HasColumn IsMember column value ↔
      ∃ written, v.HasColumn IsLast column written ∧ written.settle = value := by
  constructor
  · generalize hv : v.settle = u
    intro h
    induction h generalizing v with
    | here hcolumn h =>
        obtain ⟨members, rfl, rfl⟩ := settle_eq_object_iff.mp hv
        obtain ⟨written, hlast, rfl⟩ := isMember_settle_iff.mp h
        exact ⟨written, .here hcolumn hlast, rfl⟩
    | under h hitem hin ih =>
        obtain ⟨members, rfl, rfl⟩ := settle_eq_object_iff.mp hv
        obtain ⟨array, hlast, harray⟩ := isMember_settle_iff.mp h
        obtain ⟨items, rfl, rfl⟩ := settle_eq_array_iff.mp harray
        obtain ⟨item, hmem, rfl⟩ := List.mem_map.mp hitem
        obtain ⟨written, hin, hwritten⟩ := ih rfl
        exact ⟨written, .under hlast hmem hin, hwritten⟩
  · rintro ⟨written, h, rfl⟩
    induction h with
    | here hcolumn h =>
        rw [settle_object]
        exact .here hcolumn (isMember_settle_iff.mpr ⟨_, h, rfl⟩)
    | under h hitem hin ih =>
        rw [settle_object]
        exact .under (isMember_settle_iff.mpr ⟨_, h, settle_array _⟩) (List.mem_map_of_mem hitem) ih

theorem isComparison_settle_iff {column : String} {value : Json} {l : Leaf} :
    IsComparison IsMember column value.settle l ↔ IsComparison IsLast column value l := by
  constructor
  · generalize hvalue : value.settle = v
    rintro (s | ⟨hkey, h⟩)
    · rw [settle_eq_json_iff.mp hvalue]
      exact .equality s
    · obtain ⟨operators, rfl, rfl⟩ := settle_eq_object_iff.mp hvalue
      obtain ⟨written, hlast, hwritten⟩ := isMember_settle_iff.mp h
      rw [settle_eq_json_iff.mp hwritten] at hlast
      exact .operator hkey hlast
  · rintro (s | ⟨hkey, h⟩)
    · rw [settle_eq_json_iff.mpr rfl]
      exact .equality s
    · rw [settle_object]
      exact .operator hkey (isMember_settle_iff.mpr ⟨_, h, settle_eq_json_iff.mpr rfl⟩)

/-- The reader keeps the comparisons that count. -/
theorem compares_settle_iff {v : Json} {l : Leaf} :
    v.settle.Compares IsMember l ↔ v.Compares IsLast l := by
  constructor
  · rintro ⟨column, value, hcolumn, hl⟩
    obtain ⟨written, hlast, rfl⟩ := hasColumn_settle_iff.mp hcolumn
    exact ⟨column, written, hlast, isComparison_settle_iff.mp hl⟩
  · rintro ⟨column, written, hcolumn, hl⟩
    exact ⟨column, written.settle, hasColumn_settle_iff.mpr ⟨written, hcolumn, rfl⟩,
      isComparison_settle_iff.mpr hl⟩

/-! ## What a condition says -/

theorem isComparison_json_iff {column : String} {s : Scalar} {l : Leaf} :
    IsComparison IsMember column s.json l ↔ l = ⟨column, .eq, s⟩ := by
  constructor
  · generalize hv : s.json = v
    rintro (t | _)
    · rw [Scalar.json_inj.mp hv]
    · cases s <;> cases hv
  · rintro rfl
    exact .equality s

theorem isComparison_operator_iff {column key : String} {comparison : Comparison}
    (hkey : Comparison.ofKey? key = some comparison) {s : Scalar} {l : Leaf} :
    IsComparison IsMember column (.object [(key, s.json)]) l ↔ l = ⟨column, comparison, s⟩ := by
  constructor
  · generalize hv : Json.object [(key, s.json)] = v
    rintro (t | ⟨hkey', h⟩)
    · cases t <;> cases hv
    · -- the object has this one member
      cases hv
      obtain ⟨rfl, hvalue⟩ := Prod.mk.inj (List.mem_singleton.mp h)
      rw [hkey, Option.some.injEq] at hkey'
      rw [← hkey', Scalar.json_inj.mp hvalue]
  · rintro rfl
    exact .operator hkey List.mem_cons_self

/-- What stands beside a column compares it in one way only. -/
theorem isComparison_operand_iff {l m : Leaf} :
    IsComparison IsMember l.column l.operand m ↔ m = l := by
  rcases l.operand_cases with ⟨heq, hoperand⟩ | ⟨key, hkey, hoperand⟩
  · rw [hoperand, isComparison_json_iff, ← heq]
  · rw [hoperand, isComparison_operator_iff hkey]

end Json

namespace Condition

open Json

/-- The columns of a document that is read are those of the comparisons in its condition. -/
theorem hasColumn_iff_of_ofJsonAt {depth : Nat} {v : Json} {c : Condition}
    (h : ofJsonAt depth v = .ok c) {column : String} {value : Json} :
    v.HasColumn IsMember column value ↔ ∃ l ∈ c.leaves, l.member = (column, value) := by
  refine ofJsonAt_induction (P := fun _ v c =>
    v.HasColumn IsMember column value ↔ ∃ l ∈ c.leaves, l.member = (column, value)) ?_ ?_ h
  · intro depth connective items operands _ _ _ ih
    have hparts : (∃ item ∈ items, item.HasColumn IsMember column value) ↔
        ∃ l ∈ (Condition.group connective operands).leaves, l.member = (column, value) := by
      rw [exists_mem_iff_of_forall₂ ih, leaves_group]
      simp only [List.mem_flatMap]
      grind
    rw [← hparts, hasColumn_object_iff]
    simp only [IsMember, List.mem_singleton, Prod.mk.injEq]
    constructor
    · rintro (⟨hcolumn, rfl, -⟩ | ⟨connective', items', ⟨-, harray⟩, hin⟩)
      · exact absurd connective.isReserved_key hcolumn
      · cases harray
        exact hin
    · intro hin
      exact .inr ⟨connective, items, ⟨rfl, rfl⟩, hin⟩
  · intro depth leaves _ hkeys
    rw [hasColumn_object_iff, leaves_ofLeaves]
    simp only [IsMember, List.mem_map]
    constructor
    · rintro (⟨-, hmember⟩ | ⟨connective, items, ⟨l, hl, hmember⟩, -⟩)
      · exact hmember
      · -- no column is a combinator
        have hkey : l.column = connective.key := congrArg Prod.fst hmember
        exact absurd (hkey ▸ connective.isReserved_key) (hkeys l hl)
    · rintro ⟨l, hl, hmember⟩
      refine .inl ⟨?_, l, hl, hmember⟩
      have hcolumn : l.column = column := congrArg Prod.fst hmember
      exact hcolumn ▸ hkeys l hl

theorem mem_leaves_iff_of_ofJson {v : Json} {c : Condition} (h : ofJson v = .ok c) {l : Leaf} :
    l ∈ c.leaves ↔ v.Compares IsMember l := by
  constructor
  · intro hl
    exact ⟨l.column, l.operand, (hasColumn_iff_of_ofJsonAt h).mpr ⟨l, hl, rfl⟩,
      isComparison_operand_iff.mpr rfl⟩
  · rintro ⟨column, value, hcolumn, hl⟩
    obtain ⟨m, hm, hmember⟩ := (hasColumn_iff_of_ofJsonAt h).mp hcolumn
    cases hmember
    rwa [isComparison_operand_iff.mp hl]

variable {w : Json} {c : Condition}

/-- **The comparisons that count.** -/
theorem mem_leaves_iff_compares (h : ofJson w.settle = .ok c) {l : Leaf} :
    l ∈ c.leaves ↔ w.Compares IsLast l := by
  rw [mem_leaves_iff_of_ofJson h, compares_settle_iff]

/-- **Each column that counts** has its comparison. -/
theorem exists_mem_leaves_of_hasColumn (h : ofJson w.settle = .ok c) {column : String}
    {value : Json} (hcolumn : w.HasColumn IsLast column value) :
    ∃ l ∈ c.leaves, IsComparison IsLast column value l := by
  have hkept := hasColumn_settle_iff.mpr ⟨value, hcolumn, rfl⟩
  obtain ⟨l, hl, hmember⟩ := (hasColumn_iff_of_ofJsonAt h).mp hkept
  obtain ⟨rfl, hoperand⟩ := Prod.mk.inj hmember
  refine ⟨l, hl, isComparison_settle_iff.mp ?_⟩
  rw [← hoperand]
  exact isComparison_operand_iff.mpr rfl

end Condition

end DocumentSql
