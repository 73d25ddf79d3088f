import DocumentSql.Condition.Where
import DocumentSql.Proofs.Result
import Mathlib.Data.List.Forall2

/-!
# When a condition has a text

Induction on conditions, the comparisons of a condition, and what a text of a condition is made
of: the condition of a group has a text exactly when there are operands, each of them has a text
that is not empty, and the group is not too deep.

* `Condition.bodyAt_group_eq_ok_iff`: the text of a group.
* `Condition.exists_bodyAt_group_iff`: the groups that have a text.
-/

set_option autoImplicit false

namespace DocumentSql

/-- A list is related to another where each of its members is related to something. -/
theorem exists_forall₂ {α β : Type} {R : α → β → Prop} {as : List α}
    (h : ∀ a ∈ as, ∃ b, R a b) : ∃ bs, List.Forall₂ R as bs := by
  induction as with
  | nil => exact ⟨[], .nil⟩
  | cons a as ih =>
      obtain ⟨b, hb⟩ := h a List.mem_cons_self
      obtain ⟨bs, hbs⟩ := ih fun c hc => h c (List.mem_cons_of_mem a hc)
      exact ⟨b :: bs, .cons hb hbs⟩

namespace Condition

/-- Induction on conditions: what holds of the operands holds of the group. -/
@[elab_as_elim]
theorem induction {P : Condition → Prop} (empty : P .empty)
    (group : ∀ connective operands, (∀ c ∈ operands, P c) → P (.group connective operands))
    (leaf : ∀ l, P (.leaf l)) (fields : ∀ leaves, P (.fields leaves)) (c : Condition) : P c :=
  Condition.rec empty group leaf fields (by simp)
    (fun c rest hc hrest => by simpa using And.intro hc hrest) c

/-- Induction on conditions where only groups matter. -/
@[elab_as_elim]
theorem groupInduction {P : Condition → Prop}
    (group : ∀ connective operands, (∀ c ∈ operands, P c) → P (.group connective operands))
    (other : ∀ c, (∀ connective operands, c ≠ .group connective operands) → P c)
    (c : Condition) : P c :=
  induction (other .empty (by simp)) group (fun l => other (.leaf l) (by simp))
    (fun leaves => other (.fields leaves) (by simp)) c

/-! ## Comparisons -/

mutual

/-- The comparisons of a condition from left to right. -/
def leaves : Condition → List Leaf
  | .empty => []
  | .group _ operands => leavesOf operands
  | .leaf l => [l]
  | .fields ls => ls

/-- The comparisons of conditions from left to right. -/
def leavesOf : List Condition → List Leaf
  | [] => []
  | c :: rest => leaves c ++ leavesOf rest

end

theorem leavesOf_eq_flatMap (cs : List Condition) : leavesOf cs = cs.flatMap leaves := by
  induction cs with
  | nil => rfl
  | cons c cs ih => rw [leavesOf, ih, List.flatMap_cons]

@[simp] theorem leaves_empty : leaves .empty = [] := rfl

@[simp] theorem leaves_leaf (l : Leaf) : leaves (.leaf l) = [l] := rfl

@[simp] theorem leaves_fields (ls : List Leaf) : leaves (.fields ls) = ls := rfl

@[simp] theorem leaves_group (connective : Connective) (operands : List Condition) :
    leaves (.group connective operands) = operands.flatMap leaves :=
  leavesOf_eq_flatMap operands

/-! ## Texts -/

/-- The text of a condition that may stand as an operand. -/
def IsOperandText (depth : Nat) (c : Condition) (part : String) : Prop :=
  bodyAt depth c = .ok part ∧ part ≠ ""

/-- Operands have texts exactly when each of them has one that is not empty. -/
theorem partsAt_eq_ok_iff (connective : Connective) (depth : Nat) (cs : List Condition)
    (parts : List String) :
    partsAt connective depth cs = .ok parts ↔
      List.Forall₂ (IsOperandText depth) cs parts := by
  induction cs generalizing parts with
  | nil => simp [partsAt, eq_comm]
  | cons c cs ih =>
      constructor
      · intro h
        rw [partsAt, bind_eq_ok_iff] at h
        obtain ⟨part, hpart, h⟩ := h
        by_cases hempty : part.isEmpty
        · rw [if_pos hempty] at h
          cases h
        · rw [if_neg hempty, bind_eq_ok_iff] at h
          obtain ⟨rest, hrest, h⟩ := h
          cases h
          exact .cons ⟨hpart, by simpa using hempty⟩ ((ih rest).mp hrest)
      · rintro (_ | ⟨⟨hpart, hne⟩, hrest⟩)
        simp [partsAt, hpart, hne, (ih _).mpr hrest, bind, Except.bind]

theorem exists_text_of_mem {depth : Nat} {cs : List Condition} {parts : List String}
    (h : List.Forall₂ (IsOperandText depth) cs parts) {c : Condition} (hc : c ∈ cs) :
    ∃ part, IsOperandText depth c part := by
  induction h with
  | nil => cases hc
  | cons hpart hrest ih =>
      rcases List.mem_cons.mp hc with rfl | hc
      · exact ⟨_, hpart⟩
      · exact ih hc

theorem bodyAt_of_lt {depth : Nat} (h : deepestCondition < depth) (c : Condition) :
    bodyAt depth c = .error .conditionTooDeep := by
  unfold bodyAt
  rw [if_pos h]

theorem bodyAt_empty {depth : Nat} (h : depth ≤ deepestCondition) :
    bodyAt depth .empty = .ok "" := by
  unfold bodyAt
  rw [if_neg (by omega)]

theorem bodyAt_leaf {depth : Nat} (h : depth ≤ deepestCondition) (l : Leaf) :
    bodyAt depth (.leaf l) = .ok l.sql := by
  unfold bodyAt
  rw [if_neg (by omega)]

theorem bodyAt_fields {depth : Nat} (h : depth ≤ deepestCondition) (leaves : List Leaf) :
    bodyAt depth (.fields leaves) = .ok (leavesBody leaves) := by
  unfold bodyAt
  rw [if_neg (by omega)]

theorem bodyAt_group_nil {depth : Nat} (h : depth ≤ deepestCondition)
    (connective : Connective) :
    bodyAt depth (.group connective []) =
      .error (.combinatorWithoutOperands connective.key) := by
  unfold bodyAt
  rw [if_neg (by omega)]

theorem bodyAt_group_cons {depth : Nat} (h : depth ≤ deepestCondition)
    (connective : Connective) (c : Condition) (cs : List Condition) :
    bodyAt depth (.group connective (c :: cs)) =
      (partsAt connective (depth + 1) (c :: cs)).map (joinParts connective) := by
  have hdepth : ¬ deepestCondition < depth := by omega
  simp only [bodyAt, if_neg hdepth]
  cases partsAt connective (depth + 1) (c :: cs) <;> rfl

theorem depth_le_of_bodyAt {depth : Nat} {c : Condition} {text : String}
    (h : bodyAt depth c = .ok text) : depth ≤ deepestCondition := by
  by_contra hdepth
  rw [bodyAt_of_lt (by omega)] at h
  cases h

/-- **The text of a group.** -/
theorem bodyAt_group_eq_ok_iff (depth : Nat) (connective : Connective)
    (operands : List Condition) (text : String) :
    bodyAt depth (.group connective operands) = .ok text ↔
      depth ≤ deepestCondition ∧ operands ≠ [] ∧
        ∃ parts, List.Forall₂ (IsOperandText (depth + 1)) operands parts ∧
          joinParts connective parts = text := by
  by_cases hdepth : depth ≤ deepestCondition
  · cases operands with
    | nil => simp [bodyAt_group_nil hdepth]
    | cons c cs =>
        rw [bodyAt_group_cons hdepth]
        simp only [← partsAt_eq_ok_iff connective]
        cases partsAt connective (depth + 1) (c :: cs) <;> simp [Except.map, hdepth]
  · rw [bodyAt_of_lt (by omega)]
    simp [hdepth]

/-- **A group has a text** exactly when it has operands, each with a text that is not empty. -/
theorem exists_bodyAt_group_iff (depth : Nat) (connective : Connective)
    (operands : List Condition) :
    (∃ text, bodyAt depth (.group connective operands) = .ok text) ↔
      depth ≤ deepestCondition ∧ operands ≠ [] ∧
        ∀ c ∈ operands, ∃ part, IsOperandText (depth + 1) c part := by
  constructor
  · rintro ⟨text, h⟩
    obtain ⟨hdepth, hne, parts, hparts, -⟩ := (bodyAt_group_eq_ok_iff ..).mp h
    exact ⟨hdepth, hne, fun c hc => exists_text_of_mem hparts hc⟩
  · rintro ⟨hdepth, hne, h⟩
    obtain ⟨parts, hparts⟩ := exists_forall₂ h
    exact ⟨_, (bodyAt_group_eq_ok_iff ..).mpr ⟨hdepth, hne, parts, hparts, rfl⟩⟩

/-- The WHERE clause stands where the condition has a text that is not empty. -/
theorem whereClause_eq_ok_iff {c : Condition} {clause : String} :
    c.whereClause = .ok clause ↔
      ∃ text, c.body = .ok text ∧ clause = if text = "" then "" else "WHERE " ++ text := by
  rw [whereClause, bind_eq_ok_iff]
  simp [@eq_comm _ clause]

end Condition

end DocumentSql
