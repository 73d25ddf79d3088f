import DocumentSql.Proofs.Condition.Filter
import DocumentSql.Proofs.Json.Parts

/-!
# The shape of conditions that have a text

A condition has a text exactly when each of its groups has operands, none of which constrains
nothing, and when no part of it lies too deep. Of a document that is read, only the operands that
constrain nothing are left to refuse: the reader counts combinators as the writer does.

* `Condition.hasText_iff`: which conditions have a text, and which documents that are read have
  none.
-/

set_option autoImplicit false

namespace DocumentSql

/-! ## Documents with an empty operand -/

namespace Json

/-- Somewhere in the value, an object without members is under a combinator. -/
def HasEmptyOperand (v : Json) : Prop :=
  ∃ members, ∃ key ∈ combinatorKeys, ∃ items,
    v.Contains (.object members) ∧ (key, .array items) ∈ members ∧ .object [] ∈ items

theorem hasEmptyOperand_combinator_iff {key : String} (hkey : key ∈ combinatorKeys)
    (items : List Json) :
    HasEmptyOperand (.object [(key, .array items)]) ↔
      ∃ item ∈ items, item = .object [] ∨ item.HasEmptyOperand := by
  have hcontains : ∀ members, Contains (.object [(key, .array items)]) (.object members) ↔
      members = [(key, .array items)] ∨ ∃ item ∈ items, item.Contains (.object members) := by
    intro members
    simp [contains_object_iff, contains_array_iff]
  constructor
  · rintro ⟨members, key', hkey', items', hmembers, harray, hempty⟩
    rcases (hcontains members).mp hmembers with rfl | ⟨item, hitem, hin⟩
    · rw [List.mem_singleton, Prod.mk.injEq, array.injEq] at harray
      obtain ⟨-, rfl⟩ := harray
      exact ⟨_, hempty, .inl rfl⟩
    · exact ⟨item, hitem, .inr ⟨members, key', hkey', items', hin, harray, hempty⟩⟩
  · rintro ⟨item, hitem, rfl | ⟨members, key', hkey', items', hin, harray, hempty⟩⟩
    · exact ⟨_, key, hkey, items, .self _, List.mem_cons_self, hitem⟩
    · exact ⟨members, key', hkey', items', (hcontains members).mpr (.inr ⟨item, hitem, hin⟩),
        harray, hempty⟩

theorem IsScalar.not_contains_object {v : Json} (h : v.IsScalar)
    (members : List (String × Json)) : ¬ v.Contains (.object members) := by
  cases h <;> rintro ⟨⟩

theorem IsScalar.hasDistinctKeys {v : Json} (h : v.IsScalar) : v.HasDistinctKeys := by
  intro members hin
  exact absurd hin (h.not_contains_object members)

/-- Beside a column stands no object with an array in it. -/
theorem not_mem_of_operand_contains {l : Leaf} {members : List (String × Json)}
    (h : l.operand.Contains (.object members)) (key : String) (items : List Json) :
    (key, .array items) ∉ members := by
  have hscalar := l.value.isScalar_json
  rcases l.operand_cases with ⟨-, hoperand⟩ | ⟨name, -, hoperand⟩
  · rw [hoperand] at h
    exact absurd h (hscalar.not_contains_object members)
  · rw [hoperand, contains_object_iff] at h
    rcases h with hself | ⟨m, hm, hin⟩
    · cases hself
      rw [List.mem_singleton, Prod.mk.injEq]
      rintro ⟨-, harray⟩
      rw [← harray] at hscalar
      cases hscalar
    · rw [List.mem_singleton] at hm
      subst hm
      exact absurd hin (hscalar.not_contains_object members)

theorem not_hasEmptyOperand_columns (leaves : List Leaf) :
    ¬ HasEmptyOperand (.object (leaves.map Leaf.member)) := by
  rintro ⟨members, key, -, items, hmembers, harray, -⟩
  rcases contains_object_iff.mp hmembers with hself | ⟨m, hm, hin⟩
  · cases hself
    obtain ⟨l, -, hl⟩ := List.mem_map.mp harray
    have hoperand : l.operand = .array items := congrArg Prod.snd hl
    -- an operand is no array
    rcases l.operand_cases with ⟨-, heq⟩ | ⟨name, -, heq⟩
    · have hscalar := l.value.isScalar_json
      rw [← heq, hoperand] at hscalar
      cases hscalar
    · rw [heq] at hoperand
      cases hoperand
  · obtain ⟨l, -, rfl⟩ := List.mem_map.mp hm
    exact not_mem_of_operand_contains hin key items harray

end Json

namespace Condition

/-! ## The parts of a condition -/

/-- The second condition is a part of the first, under the given number of groups. -/
inductive HasPart : Condition → Nat → Condition → Prop where
  | self (c : Condition) : HasPart c 0 c
  | operand {connective : Connective} {operands : List Condition} {c d : Condition} {k : Nat}
      (hc : c ∈ operands) (h : HasPart c k d) : HasPart (.group connective operands) (k + 1) d

/-- Every group has operands, and each of them constrains something. -/
def IsGrounded (c : Condition) : Prop :=
  ∀ k connective operands, c.HasPart k (.group connective operands) →
    operands ≠ [] ∧ ∀ d ∈ operands, ¬ d.IsVacuous

theorem hasPart_group_iff {connective : Connective} {operands : List Condition} {k : Nat}
    {d : Condition} :
    HasPart (.group connective operands) k d ↔
      (k = 0 ∧ d = .group connective operands) ∨
        ∃ j, k = j + 1 ∧ ∃ c ∈ operands, c.HasPart j d := by
  constructor
  · rintro (_ | ⟨hc, h⟩)
    · exact .inl ⟨rfl, rfl⟩
    · exact .inr ⟨_, rfl, _, hc, h⟩
  · rintro (⟨rfl, rfl⟩ | ⟨j, rfl, c, hc, h⟩)
    · exact .self _
    · exact .operand hc h

/-- A condition that is no group is its only part. -/
theorem hasPart_iff_of_ne_group {c : Condition}
    (h : ∀ connective operands, c ≠ .group connective operands) {k : Nat} {d : Condition} :
    c.HasPart k d ↔ k = 0 ∧ d = c := by
  constructor
  · rintro (_ | _)
    · exact ⟨rfl, rfl⟩
    · exact absurd rfl (h _ _)
  · rintro ⟨rfl, rfl⟩
    exact .self _

theorem isGrounded_group_iff (connective : Connective) (operands : List Condition) :
    IsGrounded (.group connective operands) ↔
      operands ≠ [] ∧ ∀ c ∈ operands, ¬ c.IsVacuous ∧ c.IsGrounded := by
  constructor
  · intro h
    obtain ⟨hne, hvacuous⟩ := h 0 connective operands (.self _)
    refine ⟨hne, fun c hc => ⟨hvacuous c hc, ?_⟩⟩
    intro k connective' operands' hpart
    exact h (k + 1) connective' operands' (.operand hc hpart)
  · rintro ⟨hne, hoperands⟩ k connective' operands' hpart
    rcases hasPart_group_iff.mp hpart with ⟨-, heq⟩ | ⟨j, -, c, hc, hin⟩
    · cases heq
      exact ⟨hne, fun c hc => (hoperands c hc).1⟩
    · exact (hoperands c hc).2 j connective' operands' hin

/-- All parts of the condition lie under at most `deepestCondition` groups, where `depth` groups
are around it. -/
def FitsAt (depth : Nat) (c : Condition) : Prop :=
  ∀ k d, c.HasPart k d → depth + k ≤ deepestCondition

theorem fitsAt_group_iff (depth : Nat) (connective : Connective) (operands : List Condition) :
    FitsAt depth (.group connective operands) ↔
      depth ≤ deepestCondition ∧ ∀ c ∈ operands, c.FitsAt (depth + 1) := by
  constructor
  · intro h
    refine ⟨h 0 _ (.self _), ?_⟩
    intro c hc k d hpart
    have hdeep := h (k + 1) d (.operand hc hpart)
    omega
  · rintro ⟨hdepth, hoperands⟩ k d hpart
    rcases hasPart_group_iff.mp hpart with ⟨rfl, -⟩ | ⟨j, rfl, c, hc, hin⟩
    · exact hdepth
    · have hdeep := hoperands c hc j d hin
      omega

/-! ## Texts -/

theorem isGrounded_of_ne_group {c : Condition}
    (h : ∀ connective operands, c ≠ .group connective operands) : c.IsGrounded := by
  intro k connective operands hpart
  exact absurd ((hasPart_iff_of_ne_group h).mp hpart).2.symm (h connective operands)

theorem fitsAt_iff_of_ne_group {depth : Nat} {c : Condition}
    (h : ∀ connective operands, c ≠ .group connective operands) :
    c.FitsAt depth ↔ depth ≤ deepestCondition := by
  simp [FitsAt, hasPart_iff_of_ne_group h]

/-- Without a group, only the depth is in the way of a text. -/
theorem exists_bodyAt_iff_of_ne_group {depth : Nat} {c : Condition}
    (h : ∀ connective operands, c ≠ .group connective operands) :
    (∃ text, bodyAt depth c = .ok text) ↔ depth ≤ deepestCondition := by
  constructor
  · rintro ⟨text, htext⟩
    exact depth_le_of_bodyAt htext
  · intro hdepth
    cases c with
    | empty => exact ⟨_, bodyAt_empty hdepth⟩
    | leaf l => exact ⟨_, bodyAt_leaf hdepth l⟩
    | fields leaves => exact ⟨_, bodyAt_fields hdepth leaves⟩
    | group connective operands => exact absurd rfl (h connective operands)

/-- An operand has a text that is not empty where it has one and constrains something. -/
theorem exists_isOperandText_iff (depth : Nat) (c : Condition) :
    (∃ part, IsOperandText depth c part) ↔
      ¬ c.IsVacuous ∧ ∃ text, bodyAt depth c = .ok text := by
  constructor
  · rintro ⟨part, hpart, hne⟩
    exact ⟨fun hvacuous => hne ((text_eq_empty_iff hpart).mpr hvacuous), part, hpart⟩
  · rintro ⟨hvacuous, text, htext⟩
    exact ⟨text, htext, fun hempty => hvacuous ((text_eq_empty_iff htext).mp hempty)⟩

/-- **The conditions that have a text** under a number of groups. -/
theorem exists_bodyAt_iff (depth : Nat) (c : Condition) :
    (∃ text, bodyAt depth c = .ok text) ↔ c.IsGrounded ∧ c.FitsAt depth := by
  induction c using Condition.groupInduction generalizing depth with
  | other d hd =>
      rw [exists_bodyAt_iff_of_ne_group hd, fitsAt_iff_of_ne_group hd,
        and_iff_right (isGrounded_of_ne_group hd)]
  | group connective operands ih =>
      have hoperands : (∀ c ∈ operands, ∃ part, IsOperandText (depth + 1) c part) ↔
          ∀ c ∈ operands, (¬ c.IsVacuous ∧ c.IsGrounded) ∧ c.FitsAt (depth + 1) := by
        refine forall₂_congr fun c hc => ?_
        have htext : (∃ text, bodyAt (depth + 1) c = .ok text) ↔
            c.IsGrounded ∧ c.FitsAt (depth + 1) := ih c hc (depth + 1)
        rw [exists_isOperandText_iff, htext, and_assoc]
      rw [exists_bodyAt_group_iff, hoperands, isGrounded_group_iff, fitsAt_group_iff]
      simp only [forall_and]
      tauto

/-- **The documents whose conditions have a text:** a condition that was read is not too deep, so
that only an operand that constrains nothing is refused. -/
theorem exists_bodyAt_iff_of_ofJsonAt {depth : Nat} {v : Json} {c : Condition}
    (h : ofJsonAt depth v = .ok c) :
    (∃ text, bodyAt depth c = .ok text) ↔ ¬ v.HasEmptyOperand := by
  refine ofJsonAt_induction
    (P := fun depth v c => (∃ text, bodyAt depth c = .ok text) ↔ ¬ v.HasEmptyOperand) ?_ ?_ h
  · intro depth connective items operands hdepth hne hitems ih
    -- an operand is refused where its document is the empty object, or has an empty operand
    have hoperands : (∀ item ∈ items, item ≠ .object [] ∧ ¬ item.HasEmptyOperand) ↔
        ∀ c ∈ operands, ∃ part, IsOperandText (depth + 1) c part := by
      refine forall_mem_iff_of_forall₂ (List.Forall₂.mp ?_ hitems ih)
      intro item c hitem htext
      rw [exists_isOperandText_iff, htext, isVacuous_iff_of_ofJsonAt hitem]
    rw [exists_bodyAt_group_iff, ← hoperands,
      Json.hasEmptyOperand_combinator_iff connective.key_mem_combinatorKeys]
    simp [hdepth, hne, not_or]
  · intro depth leaves hdepth hkeys
    have hgroup := ofLeaves_ne_group leaves
    rw [exists_bodyAt_iff_of_ne_group hgroup]
    simp [hdepth, Json.not_hasEmptyOperand_columns]

/-- A condition has a clause where it has a text. -/
theorem exists_whereClause_iff (c : Condition) :
    (∃ clause, QueryError.ofSchema c.whereClause = .ok clause) ↔
      ∃ text, bodyAt 0 c = .ok text := by
  simp only [ofSchema_eq_ok_iff]
  rw [whereClause, exists_bind_eq_ok_iff, body]

/-- **Which conditions have a text.** Every group has operands, none of them constrains nothing,
and no part lies under more than 64 groups; all else violates the schema. Of a document that is
read, only an object without members under a combinator is in the way of a text. -/
theorem hasText_iff :
    (∀ c : Condition,
      ((∃ clause, QueryError.ofSchema c.whereClause = .ok clause) ↔
        (∀ k connective operands, c.HasPart k (.group connective operands) →
          operands ≠ [] ∧ ∀ d ∈ operands, ¬ d.IsVacuous) ∧
        ∀ k d, c.HasPart k d → k ≤ 64) ∧
      ∀ error, QueryError.ofSchema c.whereClause = .error error →
        ∃ fault, error = .schema fault) ∧
    ∀ (v : Json) (c : Condition), QueryError.ofSchema (ofJson v) = .ok c →
      ((∃ error, QueryError.ofSchema c.whereClause = .error error) ↔ v.HasEmptyOperand) := by
  refine ⟨fun c => ⟨?_, ?_⟩, ?_⟩
  · have hfits : c.FitsAt 0 ↔ ∀ k d, c.HasPart k d → k ≤ 64 := by
      simp [FitsAt, deepestCondition]
    rw [exists_whereClause_iff, exists_bodyAt_iff, hfits]
    rfl
  · intro error h
    cases hclause : c.whereClause with
    | ok clause =>
        rw [hclause] at h
        cases h
    | error fault =>
        rw [hclause] at h
        cases h
        exact ⟨fault, rfl⟩
  · intro v c h
    have htext := exists_bodyAt_iff_of_ofJsonAt (ofSchema_eq_ok_iff.mp h)
    rw [← exists_whereClause_iff] at htext
    rw [← not_iff_not, ← htext]
    cases QueryError.ofSchema c.whereClause <;> simp

/-- A document is read whose second operand, under two combinators, is the empty object. -/
theorem hasText_iff_nested :
    let v : Json := .object [("$and", .array [.object [("a", .null)],
      .object [("$or", .array [.object [("b", .string "x"), ("c", .null)], .object []])]])]
    let c : Condition := .and [.compare "a" .eq .null,
      .or [.fields [⟨"b", .eq, .string "x"⟩, ⟨"c", .eq, .null⟩], .empty]]
    QueryError.ofSchema (ofJson v) = .ok c ∧
      QueryError.ofSchema c.whereClause = .error (.schema (.emptyOperand "$or")) ∧
      (∃ fault, QueryError.schema (.emptyOperand "$or") = .schema fault) ∧
      v.HasEmptyOperand := by
  intro v c
  exact ⟨rfl, rfl, (hasText_iff.1 c).2 _ rfl, (hasText_iff.2 v c rfl).mp ⟨_, rfl⟩⟩

end Condition

end DocumentSql
