import DocumentSql.Condition.Document
import DocumentSql.Proofs.Result
import Mathlib.Tactic.ByContra
import Mathlib.Tactic.Push

/-!
# The grammar of conditions

Which documents describe a condition, said without the reader of documents: an object with one
combinator over an array of such documents, or an object of columns with what they are compared
to. How deep combinators may nest is said apart from the grammar.

* `Condition.ofJson_ok_iff_isCondition`: the reader accepts exactly these documents, and refuses
  every other one as a violation of the schema.
-/

set_option autoImplicit false

namespace DocumentSql

/-! ## The grammar -/

namespace Json

/-- Nothing, a number or a text. -/
inductive IsScalar : Json → Prop where
  | null : IsScalar .null
  | number (n : JsonNumber) : IsScalar (.number n)
  | string (s : String) : IsScalar (.string s)

/-- The keys that stand for comparisons. -/
def comparisonKeys : List String := ["$like", "$ne", "$lt", "$gt", "$lte", "$gte"]

/-- The keys that stand for combinators. -/
def combinatorKeys : List String := ["$and", "$or"]

/-- What a column may be compared to. -/
inductive IsOperand : Json → Prop where
  | scalar {v : Json} (h : v.IsScalar) : IsOperand v
  | comparison {key : String} {v : Json} (hkey : key ∈ comparisonKeys) (h : v.IsScalar) :
      IsOperand (.object [(key, v)])

/-- The documents that describe a condition, however deep. -/
inductive IsCondition : Json → Prop where
  /-- One combinator over at least one document. -/
  | combinator {key : String} {items : List Json} (hkey : key ∈ combinatorKeys)
      (hne : items ≠ []) (h : ∀ item ∈ items, IsCondition item) :
      IsCondition (.object [(key, .array items)])
  /-- Columns, or nothing at all. -/
  | columns {members : List (String × Json)}
      (hkeys : ∀ member ∈ members, member.1.toList.head? ≠ some '$')
      (hvalues : ∀ member ∈ members, member.2.IsOperand) : IsCondition (.object members)

mutual

/-- The greatest number of combinators on a way down into a document. -/
def nesting : Json → Nat
  | .object [(key, .array items)] => if key ∈ combinatorKeys then nestingOf items + 1 else 0
  | _ => 0

/-- The greatest number of combinators on a way down into one of several documents. -/
def nestingOf : List Json → Nat
  | [] => 0
  | item :: rest => max (nesting item) (nestingOf rest)

end

theorem add_nestingOf_le_iff {items : List Json} (hne : items ≠ []) (n m : Nat) :
    n + nestingOf items ≤ m ↔ ∀ item ∈ items, n + item.nesting ≤ m := by
  induction items with
  | nil => exact absurd rfl hne
  | cons item items ih =>
      rw [nestingOf, List.forall_mem_cons]
      by_cases hrest : items = []
      · simp [hrest, nestingOf]
      · rw [← ih hrest]
        omega

theorem nesting_combinator {key : String} (hkey : key ∈ combinatorKeys) (items : List Json) :
    nesting (.object [(key, .array items)]) = nestingOf items + 1 := by
  rw [nesting, if_pos hkey]

theorem nesting_other {v : Json} (h : ∀ key items, v ≠ .object [(key, .array items)]) :
    v.nesting = 0 := by
  rw [nesting]
  exact h

/-- Induction on documents: a document that has the shape of a combinator over an array comes
after the documents in the array. -/
@[elab_as_elim]
theorem combinatorInduction {P : Json → Prop}
    (combinator : ∀ key items, (∀ item ∈ items, P item) → P (.object [(key, .array items)]))
    (other : ∀ v, (∀ key items, v ≠ .object [(key, .array items)]) → P v) (v : Json) : P v := by
  by_cases h : ∃ key items, v = .object [(key, .array items)]
  · obtain ⟨key, items, heq⟩ := h
    rw [heq]
    refine combinator key items ?_
    intro item hitem
    exact combinatorInduction combinator other item
  · refine other v ?_
    intro key items heq
    exact h ⟨key, items, heq⟩
termination_by sizeOf v
decreasing_by
  -- an item is smaller than the object around its array
  have hlt := List.sizeOf_lt_of_mem hitem
  rw [heq]
  simp only [object.sizeOf_spec, List.cons.sizeOf_spec, Prod.mk.sizeOf_spec, array.sizeOf_spec]
  omega

end Json

namespace Json

theorem not_isOperand_array (items : List Json) : ¬ IsOperand (.array items) := by
  rintro ⟨⟨⟩⟩

theorem isCondition_combinator_iff (key : String) (items : List Json) :
    IsCondition (.object [(key, .array items)]) ↔
      key ∈ combinatorKeys ∧ items ≠ [] ∧ ∀ item ∈ items, item.IsCondition := by
  constructor
  · rintro (⟨hkey, hne, h⟩ | ⟨-, hvalues⟩)
    · exact ⟨hkey, hne, h⟩
    · exact absurd (hvalues (key, .array items) (by simp)) (not_isOperand_array items)
  · rintro ⟨hkey, hne, h⟩
    exact .combinator hkey hne h

theorem isCondition_columns_iff {members : List (String × Json)}
    (h : ∀ key items, Json.object members ≠ .object [(key, .array items)]) :
    IsCondition (.object members) ↔
      (∀ member ∈ members, member.1.toList.head? ≠ some '$') ∧
        ∀ member ∈ members, member.2.IsOperand := by
  constructor
  · rintro (⟨hkey, hne, hitems⟩ | ⟨hkeys, hvalues⟩)
    · exact absurd rfl (h _ _)
    · exact ⟨hkeys, hvalues⟩
  · rintro ⟨hkeys, hvalues⟩
    exact .columns hkeys hvalues

end Json

open Json

/-! ## Keys -/

theorem Comparison.ofKey?_ne_none_iff (key : String) :
    ofKey? key ≠ none ↔ key ∈ comparisonKeys := by
  unfold ofKey?
  simp only [comparisonKeys, List.mem_cons, List.not_mem_nil, or_false]
  grind

theorem Connective.ofKey?_ne_none_iff (key : String) :
    ofKey? key ≠ none ↔ key ∈ combinatorKeys := by
  unfold ofKey?
  simp only [combinatorKeys, List.mem_cons, List.not_mem_nil, or_false]
  grind

theorem isOperatorKey_eq_true_iff (key : String) :
    isOperatorKey key = true ↔ key.toList.head? = some '$' := by
  unfold isOperatorKey
  split
  · next cs h => simp [h]
  · next h =>
      cases hkey : key.toList with
      | nil => simp
      | cons c cs =>
          have hc : c ≠ '$' := by
            rintro rfl
            exact h cs hkey
          simp [hc]

/-- The key of a combinator is no column. -/
theorem Connective.ofKey?_eq_none_of_column {key : String} (h : key.toList.head? ≠ some '$') :
    ofKey? key = none := by
  by_contra hkey
  have hmem := (ofKey?_ne_none_iff key).mp hkey
  simp only [combinatorKeys, List.mem_cons, List.not_mem_nil, or_false] at hmem
  rcases hmem with rfl | rfl <;> exact h rfl

/-! ## Columns -/

theorem Scalar.ofJson_accepts_iff (v : Json) : (∃ s, ofJson v = .ok s) ↔ v.IsScalar := by
  rw [ofJson_eq_ok_iff]
  constructor
  · rintro (rfl | ⟨n, rfl⟩ | ⟨s, rfl⟩)
    · exact .null
    · exact .number n
    · exact .string s
  · rintro (_ | n | s)
    · exact .inl rfl
    · exact .inr (.inl ⟨n, rfl⟩)
    · exact .inr (.inr ⟨s, rfl⟩)

/-- A comparison with a value is read where the value is a scalar. -/
theorem Leaf.exists_comparison_iff (column : String) (comparison : Comparison) (v : Json) :
    (∃ l, (Scalar.ofJson v >>= fun value => .ok (Leaf.mk column comparison value)) = .ok l) ↔
      v.IsScalar := by
  rw [exists_bind_eq_ok_iff, Scalar.ofJson_accepts_iff]

theorem Leaf.ofJson_accepts_iff (column : String) (v : Json) :
    (∃ l, ofJson column v = .ok l) ↔ v.IsOperand := by
  constructor
  · rintro ⟨l, h⟩
    unfold ofJson at h
    split at h
    · next key operand =>
        split at h
        · cases h
        · next comparison hkey =>
            refine .comparison ?_ ((exists_comparison_iff column comparison operand).mp ⟨l, h⟩)
            exact (Comparison.ofKey?_ne_none_iff key).mp (by simp [hkey])
    · cases h
    · exact .scalar ((exists_comparison_iff column .eq v).mp ⟨l, h⟩)
  · rintro (hscalar | ⟨hkey, hscalar⟩)
    · obtain ⟨l, hl⟩ := (exists_comparison_iff column .eq v).mpr hscalar
      refine ⟨l, ?_⟩
      cases hscalar <;> exact hl
    · next key operand =>
        obtain ⟨comparison, hcomparison⟩ :=
          Option.ne_none_iff_exists'.mp ((Comparison.ofKey?_ne_none_iff key).mpr hkey)
        obtain ⟨l, hl⟩ := (exists_comparison_iff column comparison operand).mpr hscalar
        refine ⟨l, ?_⟩
        simp only [ofJson, hcomparison]
        exact hl

theorem Leaf.ofMembers_accepts_iff (members : List (String × Json)) :
    (∃ ls, ofMembers members = .ok ls) ↔ ∀ member ∈ members, member.2.IsOperand := by
  induction members with
  | nil => simp [ofMembers]
  | cons member members ih =>
      rw [List.forall_mem_cons, ← ih, ← Leaf.ofJson_accepts_iff member.1]
      cases hleaf : ofJson member.1 member.2 <;> cases hleaves : ofMembers members <;>
        simp [ofMembers, hleaf, hleaves, bind, Except.bind]

namespace Condition

theorem ofColumns_accepts_iff (members : List (String × Json)) :
    (∃ c, ofColumns members = .ok c) ↔
      (∀ member ∈ members, member.1.toList.head? ≠ some '$') ∧
        ∀ member ∈ members, member.2.IsOperand := by
  have hkeys : (∀ member ∈ members, member.1.toList.head? ≠ some '$') ↔
      (members.find? fun member => isOperatorKey member.1) = none := by
    rw [List.find?_eq_none]
    simp only [isOperatorKey_eq_true_iff, ne_eq]
  rw [hkeys, ← Leaf.ofMembers_accepts_iff]
  unfold ofColumns
  cases members.find? fun member => isOperatorKey member.1 with
  | some member => simp
  | none => cases Leaf.ofMembers members <;> simp [bind, Except.bind]

theorem ofItemsAt_accepts_iff (depth : Nat) (items : List Json) :
    (∃ cs, ofItemsAt depth items = .ok cs) ↔ ∀ item ∈ items, ∃ c, ofJsonAt depth item = .ok c := by
  induction items with
  | nil => simp [ofItemsAt]
  | cons item items ih =>
      rw [List.forall_mem_cons, ← ih]
      cases hitem : ofJsonAt depth item <;> cases hitems : ofItemsAt depth items <;>
        simp [ofItemsAt, hitem, hitems, bind, Except.bind]

/-! ## Documents -/

theorem ofJsonAt_of_lt {depth : Nat} (h : deepestCondition < depth) (v : Json) :
    ofJsonAt depth v = .error .conditionTooDeep := by
  unfold ofJsonAt
  rw [if_pos h]

theorem ofJsonAt_too_deep_accepts_iff {depth : Nat} (h : deepestCondition < depth) (v : Json) :
    (∃ c, ofJsonAt depth v = .ok c) ↔
      v.IsCondition ∧ depth + v.nesting ≤ deepestCondition := by
  have hdeep : ¬ depth + v.nesting ≤ deepestCondition := by omega
  simp [ofJsonAt_of_lt h, hdeep]

/-- An object with one member is a combinator or a column, as its key says. -/
theorem ofJsonAt_single {depth : Nat} (hdepth : depth ≤ deepestCondition) (key : String)
    (operand : Json) :
    ofJsonAt depth (.object [(key, operand)]) =
      match Connective.ofKey? key, operand with
      | none, _ => ofColumns [(key, operand)]
      | some _, .array [] => .error (.combinatorWithoutOperands key)
      | some connective, .array items => do
          let operands ← ofItemsAt (depth + 1) items
          .ok (.group connective operands)
      | some _, _ => .error (.combinatorNotArray key) := by
  rw [ofJsonAt, if_neg (by omega)]
  cases Connective.ofKey? key with
  | none => rfl
  | some connective =>
      cases operand with
      | array items =>
          cases items with
          | nil => rfl
          | cons item items => rfl
      | _ => rfl

/-- An object with another number of members has columns only. -/
theorem ofJsonAt_members {depth : Nat} (hdepth : depth ≤ deepestCondition)
    {members : List (String × Json)} (h : ∀ member, members ≠ [member]) :
    ofJsonAt depth (.object members) =
      if members.any fun member => isCombinatorKey member.1 then .error .combinatorNotAlone
      else ofColumns members := by
  rw [ofJsonAt, if_neg (by omega)]
  intro key operand heq
  exact h (key, operand) heq

theorem ofJsonAt_of_not_object {depth : Nat} (hdepth : depth ≤ deepestCondition) {v : Json}
    (h : ∀ members, v ≠ .object members) :
    ofJsonAt depth v = .error (.conditionNotObject v) := by
  rw [ofJsonAt, if_neg (by omega)]
  · intro key operand
    exact h [(key, operand)]
  · exact h

/-- An object that is no combinator over an array is read as columns, or refused. -/
theorem ofJsonAt_columns_accepts_iff {depth : Nat} (hdepth : depth ≤ deepestCondition)
    {members : List (String × Json)}
    (h : ∀ key items, Json.object members ≠ .object [(key, .array items)]) :
    (∃ c, ofJsonAt depth (.object members) = .ok c) ↔
      (∀ member ∈ members, member.1.toList.head? ≠ some '$') ∧
        ∀ member ∈ members, member.2.IsOperand := by
  rw [← ofColumns_accepts_iff]
  have hcolumns : (∃ c, ofColumns members = .ok c) →
      ∀ member ∈ members, Connective.ofKey? member.1 = none := by
    rw [ofColumns_accepts_iff]
    rintro ⟨hkeys, -⟩ member hmember
    exact Connective.ofKey?_eq_none_of_column (hkeys member hmember)
  by_cases hsingle : ∃ member, members = [member]
  · obtain ⟨⟨key, operand⟩, rfl⟩ := hsingle
    rw [ofJsonAt_single hdepth]
    cases hkey : Connective.ofKey? key with
    | none => rfl
    | some connective =>
        -- both sides refuse: the operand is no array, and the key is no column
        have hnone : ¬ ∃ c, ofColumns [(key, operand)] = .ok c := by
          intro hok
          rw [hcolumns hok (key, operand) List.mem_cons_self] at hkey
          cases hkey
        cases operand with
        | array items => exact absurd rfl (h key items)
        | _ => simpa using hnone
  · rw [ofJsonAt_members hdepth (by simpa using hsingle)]
    by_cases hany : members.any fun member => isCombinatorKey member.1
    · have hnone : ¬ ∃ c, ofColumns members = .ok c := by
        intro hok
        obtain ⟨member, hmember, hkey⟩ := List.any_eq_true.mp hany
        rw [isCombinatorKey, hcolumns hok member hmember] at hkey
        cases hkey
      simpa [hany] using hnone
    · rw [if_neg hany]

/-- A combinator over an array is read where the documents in the array are. -/
theorem ofJsonAt_combinator_accepts_iff {depth : Nat} (hdepth : depth ≤ deepestCondition)
    (key : String) (items : List Json) :
    (∃ c, ofJsonAt depth (.object [(key, .array items)]) = .ok c) ↔
      key ∈ combinatorKeys ∧ items ≠ [] ∧
        ∀ item ∈ items, ∃ c, ofJsonAt (depth + 1) item = .ok c := by
  rw [← ofItemsAt_accepts_iff, ← Connective.ofKey?_ne_none_iff, ofJsonAt_single hdepth]
  cases Connective.ofKey? key with
  | none =>
      have hnone : ¬ ∃ c, ofColumns [(key, .array items)] = .ok c := by
        rw [ofColumns_accepts_iff]
        rintro ⟨-, hvalues⟩
        exact not_isOperand_array items (hvalues _ List.mem_cons_self)
      simpa using hnone
  | some connective =>
      cases items with
      | nil => simp
      | cons item items =>
          have hread := exists_bind_eq_ok_iff (ofItemsAt (depth + 1) (item :: items))
            (Condition.group connective)
          simpa using hread

/-- **The reader at a depth** accepts the documents of the grammar that leave enough depth. -/
theorem ofJsonAt_accepts_iff (depth : Nat) (v : Json) :
    (∃ c, ofJsonAt depth v = .ok c) ↔
      v.IsCondition ∧ depth + v.nesting ≤ deepestCondition := by
  induction v using Json.combinatorInduction generalizing depth with
  | combinator key items ih =>
      by_cases hdepth : depth ≤ deepestCondition
      -- one more combinator stands above each of the items
      · have hitems : (∀ item ∈ items, ∃ c, ofJsonAt (depth + 1) item = .ok c) ↔
            ∀ item ∈ items, item.IsCondition ∧ depth + 1 + item.nesting ≤ deepestCondition :=
          forall₂_congr fun item hitem => ih item hitem (depth + 1)
        rw [ofJsonAt_combinator_accepts_iff hdepth, isCondition_combinator_iff, hitems]
        by_cases hkey : key ∈ combinatorKeys
        · by_cases hne : items = []
          · simp [hne]
          · have hdeep := add_nestingOf_le_iff hne (depth + 1) deepestCondition
            have hnesting : depth + (nestingOf items + 1) = depth + 1 + nestingOf items := by omega
            rw [nesting_combinator hkey, hnesting, hdeep]
            simp only [hkey, hne, ne_eq, not_false_eq_true, true_and, forall_and]
        · simp [hkey]
      · exact ofJsonAt_too_deep_accepts_iff (by omega) _
  | other v h =>
      by_cases hdepth : depth ≤ deepestCondition
      -- no combinator is left, so that the depth decides nothing
      · rw [nesting_other h, Nat.add_zero, and_iff_left hdepth]
        by_cases hobject : ∃ members, v = .object members
        · obtain ⟨members, rfl⟩ := hobject
          rw [ofJsonAt_columns_accepts_iff hdepth h, isCondition_columns_iff h]
        · rw [ofJsonAt_of_not_object hdepth (by simpa using hobject)]
          constructor
          · rintro ⟨c, hc⟩
            cases hc
          · rintro (⟨-, -, -⟩ | -)
            · exact absurd rfl (h _ _)
            · exact absurd ⟨_, rfl⟩ hobject
      · exact ofJsonAt_too_deep_accepts_iff (by omega) v

/-- **A document describes a condition exactly when it is in the grammar** and no way down into
it passes through more than 64 combinators. Every other document violates the schema. -/
theorem ofJson_ok_iff_isCondition (v : Json) :
    ((∃ c, QueryError.ofSchema (ofJson v) = .ok c) ↔ v.IsCondition ∧ v.nesting ≤ 64) ∧
      ((∃ fault, QueryError.ofSchema (ofJson v) = .error (.schema fault)) ↔
        ¬ (v.IsCondition ∧ v.nesting ≤ 64)) := by
  have haccepts : (∃ c, ofJson v = .ok c) ↔ v.IsCondition ∧ v.nesting ≤ 64 := by
    have hdepth := ofJsonAt_accepts_iff 0 v
    rwa [Nat.zero_add] at hdepth
  rw [← haccepts]
  cases ofJson v <;> simp [QueryError.ofSchema]

end Condition

end DocumentSql
