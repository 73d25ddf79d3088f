import DocumentSql.Proofs.Condition.Written

/-!
# The comparisons of a document in their order

All comparisons that are written in a document, or those of them that count, as a list from left to
right: one comparison in several places is there several times. Of several members of an object
with the same key, be it a column, a combinator or an operator, the last one counts, and it stands
where the key came first. Both lists are made in the same way, except for what is kept of the
members of an object.

* `Condition.leaves_eq_comparisons`: a condition has the comparisons that count, in their order.
* `Condition.leaves_eq_comparisons_of_hasDistinctKeys`: it has all of them where no key is written
  twice.
-/

set_option autoImplicit false

namespace DocumentSql

namespace Json

/-! ## The two lists -/

/-- The scalar that a value is. -/
def scalar? : Json → Option Scalar
  | .null => some .null
  | .number n => some (.number n)
  | .string s => some (.string s)
  | _ => none

/-- The comparison that an operator makes with the value beside it. -/
def operatorComparison (column key : String) (value : Json) : List Leaf :=
  match Comparison.ofKey? key, value.scalar? with
  | some comparison, some s => [⟨column, comparison, s⟩]
  | _, _ => []

section

variable (keep : List (String × List Leaf) → List (String × List Leaf))

/-- The comparisons of a column with what stands beside it: a scalar, or an object of operators. -/
def comparisonsBeside (column : String) : Json → List Leaf
  | .object operators =>
      (keep (operators.map fun operator =>
        (operator.1, operatorComparison column operator.1 operator.2))).flatMap Prod.snd
  | v => v.scalar?.toList.map fun s => ⟨column, .eq, s⟩

mutual

/-- The comparisons in a document, from left to right. Of the members of an object, each with its
comparisons, those are taken that `keep` leaves. -/
def comparisons : Json → List Leaf
  | .object members => (keep (comparisonsOfMembers members)).flatMap Prod.snd
  | _ => []

/-- The members of an object, each with its comparisons. -/
def comparisonsOfMembers : List (String × Json) → List (String × List Leaf)
  | [] => []
  | (key, value) :: members => (key, comparisonsAt key value) :: comparisonsOfMembers members

/-- The comparisons of a member: those in the items of a combinator, or those of a column. -/
def comparisonsAt (key : String) : Json → List Leaf
  | .array items => if key ∈ combinatorKeys then comparisonsOfItems items else []
  | v => if IsReserved key then [] else comparisonsBeside keep key v

/-- The comparisons in documents one after the other. -/
def comparisonsOfItems : List Json → List Leaf
  | [] => []
  | item :: items => comparisons item ++ comparisonsOfItems items

end

theorem comparisonsOfMembers_eq_map (members : List (String × Json)) :
    comparisonsOfMembers keep members =
      members.map fun m => (m.1, comparisonsAt keep m.1 m.2) := by
  induction members with
  | nil => rfl
  | cons m members ih => rw [comparisonsOfMembers, ih, List.map_cons]

theorem comparisonsOfItems_eq_flatMap (items : List Json) :
    comparisonsOfItems keep items = items.flatMap (comparisons keep) := by
  induction items with
  | nil => rfl
  | cons item items ih => rw [comparisonsOfItems, ih, List.flatMap_cons]

theorem comparisons_object (members : List (String × Json)) :
    comparisons keep (.object members) =
      (keep (members.map fun m => (m.1, comparisonsAt keep m.1 m.2))).flatMap Prod.snd := by
  rw [comparisons, comparisonsOfMembers_eq_map]

theorem comparisonsAt_object (key : String) (operators : List (String × Json)) :
    comparisonsAt keep key (.object operators) =
      if IsReserved key then [] else comparisonsBeside keep key (.object operators) := by
  rw [comparisonsAt]
  exact nofun

end

/-! ## What the reader keeps of them -/

theorem scalar?_settle (v : Json) : v.settle.scalar? = v.scalar? := by
  cases v <;> rfl

theorem operatorComparison_settle (column key : String) (v : Json) :
    operatorComparison column key v.settle = operatorComparison column key v := by
  rw [operatorComparison, operatorComparison, scalar?_settle]

/-- What is made of each member is made of those that the reader keeps. -/
theorem map_settle_members {β : Type} {f g : String → Json → β} {members : List (String × Json)}
    (h : ∀ m ∈ members, f m.1 m.2.settle = g m.1 m.2) :
    (Entries.settle (members.map (Prod.map id settle))).map (fun m => (m.1, f m.1 m.2)) =
      Entries.settle (members.map fun m => (m.1, g m.1 m.2)) := by
  rw [← Entries.settle_map, List.map_map]
  exact congrArg Entries.settle (List.map_congr_left fun m hm => Prod.ext rfl (h m hm))

theorem comparisonsBeside_settle (column : String) (v : Json) :
    comparisonsBeside id column v.settle = comparisonsBeside Entries.settle column v := by
  cases v with
  | object operators =>
      rw [settle_object, comparisonsBeside, comparisonsBeside, id,
        map_settle_members fun m _ => operatorComparison_settle column m.1 m.2]
  | array items => rw [settle_array]; rfl
  | _ => rfl

/-- The comparisons of what the reader keeps are those that count. -/
theorem comparisons_settle (v : Json) :
    v.settle.comparisons id = v.comparisons Entries.settle ∧
      ∀ key, comparisonsAt id key v.settle = comparisonsAt Entries.settle key v := by
  induction v using Json.induction with
  | array items ih =>
      refine ⟨by rw [settle_array]; rfl, fun key => ?_⟩
      rw [settle_array, comparisonsAt, comparisonsAt, comparisonsOfItems_eq_flatMap,
        comparisonsOfItems_eq_flatMap, List.flatMap_map]
      rw [List.flatMap_congr fun item hitem => (ih item hitem).1]
  | object members ih =>
      constructor
      · rw [settle_object, comparisons_object, comparisons_object, id,
          map_settle_members fun m hm => (ih m hm).2 m.1]
      · intro key
        have hbeside := comparisonsBeside_settle key (.object members)
        rw [settle_object] at hbeside ⊢
        rw [comparisonsAt_object, comparisonsAt_object, hbeside]
  | _ => exact ⟨rfl, fun _ => rfl⟩

/-! ## What a condition says -/

theorem scalar?_json (s : Scalar) : s.json.scalar? = some s := by
  cases s <;> rfl

theorem comparisonsAt_json (key : String) (s : Scalar) :
    comparisonsAt id key s.json = if IsReserved key then [] else [⟨key, .eq, s⟩] := by
  cases s <;> rfl

/-- The member that describes a comparison has this comparison only. -/
theorem comparisonsAt_member {l : Leaf} (hl : ¬ IsReserved l.column) :
    comparisonsAt id l.column l.operand = [l] := by
  rcases l.operand_cases with ⟨heq, hoperand⟩ | ⟨key, hkey, hoperand⟩
  · rw [hoperand, comparisonsAt_json, if_neg hl, ← heq]
  · rw [hoperand, comparisonsAt_object, if_neg hl]
    simp [comparisonsBeside, operatorComparison, hkey, scalar?_json]

end Json

namespace Condition

open Json

theorem flatMap_comparisons {items : List Json} {operands : List Condition}
    (h : List.Forall₂ (fun item c => item.comparisons id = c.leaves) items operands) :
    items.flatMap (comparisons id) = operands.flatMap leaves := by
  induction h with
  | nil => rfl
  | cons hhead _ ih => rw [List.flatMap_cons, List.flatMap_cons, hhead, ih]

/-- The comparisons of a document that is read are those of its condition. -/
theorem comparisons_of_ofJsonAt {depth : Nat} {v : Json} {c : Condition}
    (h : ofJsonAt depth v = .ok c) : v.comparisons id = c.leaves := by
  refine ofJsonAt_induction (P := fun _ v c => v.comparisons id = c.leaves) ?_ ?_ h
  · intro depth connective items operands hdepth hne hitems ih
    rw [leaves_group, ← flatMap_comparisons ih, comparisons_object]
    simp [comparisonsAt, connective.key_mem_combinatorKeys, comparisonsOfItems_eq_flatMap]
  · intro depth leaves hdepth hkeys
    rw [leaves_ofLeaves, comparisons_object, id, List.map_map, List.flatMap_map]
    calc leaves.flatMap (fun l => comparisonsAt id l.column l.operand)
        = leaves.flatMap fun l => [l] :=
          List.flatMap_congr fun l hl => comparisonsAt_member (hkeys l hl)
      _ = leaves := List.flatMap_singleton' leaves

variable {w : Json} {c : Condition}

/-- **A condition has the comparisons that count,** in their order. -/
theorem leaves_eq_comparisons (h : ofJson w.settle = .ok c) :
    c.leaves = w.comparisons Entries.settle := by
  rw [← comparisons_of_ofJsonAt h, (comparisons_settle w).1]

/-- **All comparisons count** where no key is written twice. -/
theorem leaves_eq_comparisons_of_hasDistinctKeys (h : ofJson w.settle = .ok c)
    (hw : w.HasDistinctKeys) : c.leaves = w.comparisons id := by
  rw [settle_eq_self hw] at h
  exact (comparisons_of_ofJsonAt h).symm

end Condition

end DocumentSql
