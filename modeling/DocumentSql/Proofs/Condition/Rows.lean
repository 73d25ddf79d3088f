import DocumentSql.Proofs.Condition.Like
import DocumentSql.Proofs.Condition.Reading

/-!
# Conditions of rows

The truth of a condition in a row of texts. A column of the row may be NULL: then a comparison
with it is neither true nor false, and the row is only selected if the condition is true. The
truth of a condition is defined for values by place; here the values are those of the comparisons
themselves, and a group has the truth of its operands.

* `Condition.truthIn_group`: the truth of a group.
* `Condition.truthIn_and_eq_true_iff`, `Condition.truthIn_or_eq_true_iff`: when a group is true.
-/

set_option autoImplicit false

namespace DocumentSql

/-! ## Comparisons -/

/-- A row of texts. A column without a text is NULL. -/
abbrev TextRow := String → Option String

/-- The truth of something that is known. -/
def Truth.ofProp (p : Prop) [Decidable p] : Truth := if p then .true else .false

@[simp] theorem Truth.ofProp_eq_true_iff {p : Prop} [Decidable p] : ofProp p = .true ↔ p := by
  by_cases h : p <;> simp [ofProp, h]

/-- The value of a comparison in a row of texts. A text equals another or is LIKE a pattern, and
NULL is neither known to be nor known not to be. What any `other` comparison is worth is left
open. -/
def Leaf.truthIn (other : Leaf → Truth) (row : TextRow) : Leaf → Truth
  | ⟨column, .eq, .string s⟩ =>
      (row column).elim .unknown fun value => Truth.ofProp (value = s)
  | ⟨column, .like, .string pattern⟩ =>
      (row column).elim .unknown fun value => Truth.ofProp (Pattern.like pattern value)
  | l => other l

/-! ## Connectives -/

namespace Connective

theorem combine_and_eq_true_iff {truths : List Truth} :
    Connective.and.combine truths = .true ↔ ∀ t ∈ truths, t = .true := by
  induction truths with
  | nil => simp [combine, neutral]
  | cons t ts ih =>
      rw [List.forall_mem_cons, ← ih, combine, List.foldr_cons]
      show t.and (Connective.and.combine ts) = .true ↔ _
      cases t <;> cases Connective.and.combine ts <;> simp [Truth.and]

theorem combine_or_eq_true_iff {truths : List Truth} :
    Connective.or.combine truths = .true ↔ ∃ t ∈ truths, t = .true := by
  induction truths with
  | nil => simp [combine, neutral]
  | cons t ts ih =>
      rw [List.exists_mem_cons_iff, ← ih, combine, List.foldr_cons]
      show t.or (Connective.or.combine ts) = .true ↔ _
      cases t <;> cases Connective.or.combine ts <;> simp [Truth.or]

end Connective

/-! ## The truth of a group -/

namespace Condition

section Congruence

variable {ρ σ : Nat → Truth}

theorem truthsOf_congr {cs : List Condition}
    (hcs : ∀ c ∈ cs, ∀ first start : Nat,
      (∀ i < c.leaves.length, ρ (first + i) = σ (start + i)) →
        c.truth ρ first = c.truth σ start)
    {first start : Nat}
    (h : ∀ i < (cs.flatMap leaves).length, ρ (first + i) = σ (start + i)) :
    truthsOf ρ first cs = truthsOf σ start cs := by
  induction cs generalizing first start with
  | nil => rfl
  | cons c cs ih =>
      simp only [List.flatMap_cons, List.length_append] at h
      have hhead : c.truth ρ first = c.truth σ start :=
        hcs c List.mem_cons_self first start fun i hi => h i (by omega)
      have htail : truthsOf ρ (first + c.leaves.length) cs =
          truthsOf σ (start + c.leaves.length) cs := by
        refine ih (fun d hd => hcs d (List.mem_cons_of_mem c hd)) ?_
        intro i hi
        rw [Nat.add_assoc, Nat.add_assoc]
        exact h _ (by omega)
      rw [truthsOf, truthsOf, hhead, htail]

/-- The truth of a condition depends on the values of its own comparisons only. -/
theorem truth_congr {c : Condition} {first start : Nat}
    (h : ∀ i < c.leaves.length, ρ (first + i) = σ (start + i)) :
    c.truth ρ first = c.truth σ start := by
  induction c using Condition.induction generalizing first start with
  | empty => rfl
  | leaf l => exact h 0 Nat.zero_lt_one
  | fields leaves =>
      rw [truth_fields, truth_fields, truth, truth, truthsOf_congr]
      · intro c hc first start h
        obtain ⟨l, -, rfl⟩ := List.mem_map.mp hc
        exact h 0 Nat.zero_lt_one
      · simpa [List.flatMap_map] using h
  | group connective operands ih =>
      rw [truth, truth, truthsOf_congr (fun c hc first start => ih c hc) (by simpa using h)]

end Congruence

/-- The truth of a condition whose comparisons have values by what they say. -/
def truthIn (value : Leaf → Truth) (c : Condition) : Truth :=
  c.truth (fun n => (c.leaves[n]?).elim .unknown value) 0

variable {value : Leaf → Truth}

theorem truth_eq_truthIn {c : Condition} {ρ : Nat → Truth} {first : Nat}
    (h : ∀ i l, c.leaves[i]? = some l → ρ (first + i) = value l) :
    c.truth ρ first = c.truthIn value := by
  refine truth_congr ?_
  intro i hi
  rw [h i _ (List.getElem?_eq_getElem hi), Nat.zero_add, List.getElem?_eq_getElem hi]
  rfl

theorem truthsOf_eq_map {cs : List Condition} {ρ : Nat → Truth} {first : Nat}
    (h : ∀ i l, (cs.flatMap leaves)[i]? = some l → ρ (first + i) = value l) :
    truthsOf ρ first cs = cs.map (truthIn value) := by
  induction cs generalizing first with
  | nil => rfl
  | cons c cs ih =>
      rw [List.flatMap_cons] at h
      have hhead : c.truth ρ first = c.truthIn value := by
        refine truth_eq_truthIn ?_
        intro i l hl
        have hi : i < c.leaves.length := (List.getElem?_eq_some_iff.mp hl).1
        exact h i l (by rw [List.getElem?_append_left hi, hl])
      have htail : truthsOf ρ (first + c.leaves.length) cs = cs.map (truthIn value) := by
        refine ih ?_
        intro i l hl
        rw [Nat.add_assoc]
        exact h _ l (by rw [List.getElem?_append_right (by omega), Nat.add_sub_cancel_left, hl])
      rw [truthsOf, hhead, htail, List.map_cons]

@[simp] theorem truthIn_empty : empty.truthIn value = .true := rfl

@[simp] theorem truthIn_leaf (l : Leaf) : (leaf l).truthIn value = value l := rfl

/-- The truth of a group is the truth of its operands, combined. -/
theorem truthIn_group (connective : Connective) (cs : List Condition) :
    (group connective cs).truthIn value = connective.combine (cs.map (truthIn value)) := by
  rw [truthIn, truth, truthsOf_eq_map]
  intro i l hl
  rw [leaves_group, Nat.zero_add, hl]
  rfl

theorem truthIn_and_eq_true_iff {cs : List Condition} :
    (Condition.and cs).truthIn value = .true ↔ ∀ c ∈ cs, c.truthIn value = .true := by
  rw [Condition.and, truthIn_group, Connective.combine_and_eq_true_iff, List.forall_mem_map]

theorem truthIn_or_eq_true_iff {cs : List Condition} :
    (Condition.or cs).truthIn value = .true ↔ ∃ c ∈ cs, c.truthIn value = .true := by
  rw [Condition.or, truthIn_group, Connective.combine_or_eq_true_iff]
  simp

end Condition

end DocumentSql
