import DocumentSql.Proofs.Condition.Document
import DocumentSql.Proofs.Condition.Tokens

/-!
# Conditions that constrain nothing

A condition has an empty text exactly when it is written without a single comparison and without
a group: then it constrains nothing, and says so. Every other text is that of at least one
comparison. A document describes such a condition exactly when it is the object without members.

* `Condition.text_eq_empty_iff`: the conditions with an empty text.
* `Condition.leaves_ne_nil`: the comparisons of other conditions.
* `Condition.isVacuous_iff_of_ofJson`: the documents of conditions with an empty text.
-/

set_option autoImplicit false

namespace DocumentSql

open Lexical

namespace Condition

/-- The condition constrains nothing. -/
def IsVacuous (c : Condition) : Prop := c = .empty ∨ c = .fields []

/-! ## Texts -/

/-- **The conditions with an empty text.** -/
theorem text_eq_empty_iff {depth : Nat} {c : Condition} {text : String}
    (h : bodyAt depth c = .ok text) : text = "" ↔ c.IsVacuous := by
  have hdepth := depth_le_of_bodyAt h
  cases c with
  | empty =>
      rw [bodyAt_empty hdepth, Except.ok.injEq] at h
      simp [IsVacuous, ← h]
  | leaf l =>
      rw [bodyAt_leaf hdepth, Except.ok.injEq] at h
      have hne : l.sql ≠ "" := by simpa using isEmpty_sql l
      simp [IsVacuous, ← h, hne]
  | fields leaves =>
      rw [bodyAt_fields hdepth, Except.ok.injEq] at h
      have hempty : leavesBody leaves = "" ↔ leaves = [] := by
        rw [← String.isEmpty_iff, isEmpty_leavesBody, List.isEmpty_iff]
      simp [IsVacuous, ← h, hempty]
  | group connective operands =>
      obtain ⟨-, hne, parts, hparts, rfl⟩ := (bodyAt_group_eq_ok_iff ..).mp h
      -- there are as many parts as operands, and there is an operand
      have hsome : parts ≠ [] := by
        rintro rfl
        exact hne (List.forall₂_nil_right_iff.mp hparts)
      have htext : joinParts connective parts ≠ "" := by
        have := isEmpty_joinParts connective parts
        rw [List.isEmpty_eq_false_iff.mpr hsome] at this
        simpa using this
      simp [IsVacuous, htext]

/-- A group always says something. -/
theorem isOperandText_group {depth : Nat} {connective : Connective} {operands : List Condition}
    {text : String} (h : bodyAt depth (.group connective operands) = .ok text) :
    IsOperandText depth (.group connective operands) text := by
  refine ⟨h, fun hempty => ?_⟩
  have hvacuous := (text_eq_empty_iff h).mp hempty
  simp [IsVacuous] at hvacuous

/-- A text that is not empty is that of at least one comparison. -/
theorem leaves_ne_nil {depth : Nat} {c : Condition} {text : String}
    (h : bodyAt depth c = .ok text) (hne : text ≠ "") : c.leaves ≠ [] := by
  induction c using Condition.induction generalizing depth text with
  | empty => exact absurd ((text_eq_empty_iff h).mpr (.inl rfl)) hne
  | leaf l => simp
  | fields leaves =>
      rw [leaves_fields]
      rintro rfl
      exact hne ((text_eq_empty_iff h).mpr (.inr rfl))
  | group connective operands ih =>
      obtain ⟨-, hoperands, parts, hparts, -⟩ := (bodyAt_group_eq_ok_iff ..).mp h
      obtain ⟨c, hc⟩ := List.exists_mem_of_ne_nil operands hoperands
      obtain ⟨part, hpart, hpartne⟩ := exists_text_of_mem hparts hc
      obtain ⟨l, hl⟩ := List.exists_mem_of_ne_nil _ (ih c hc hpart hpartne)
      rw [leaves_group]
      exact List.ne_nil_of_mem (List.mem_flatMap.mpr ⟨c, hc, hl⟩)

/-! ## Documents -/

theorem isVacuous_ofLeaves_iff (leaves : List Leaf) :
    (ofLeaves leaves).IsVacuous ↔ leaves = [] := by
  match leaves with
  | [] => simp [ofLeaves, IsVacuous]
  | [l] => simp [ofLeaves, IsVacuous]
  | l :: m :: ls => simp [ofLeaves, IsVacuous]

/-- Under any number of combinators, only the object without members constrains nothing. -/
theorem isVacuous_iff_of_ofJsonAt {depth : Nat} {v : Json} {c : Condition}
    (h : ofJsonAt depth v = .ok c) : c.IsVacuous ↔ v = .object [] := by
  obtain ⟨-, hfound⟩ := ofJsonAt_eq_ok_iff.mp h
  cases hfound with
  | group hne hitems => simp [IsVacuous]
  | columns hkeys => simp [isVacuous_ofLeaves_iff]

/-- **The documents of conditions with an empty text:** the object without members. -/
theorem isVacuous_iff_of_ofJson {v : Json} {c : Condition} (h : ofJson v = .ok c) :
    c.IsVacuous ↔ v = .object [] :=
  isVacuous_iff_of_ofJsonAt h

end Condition

end DocumentSql
