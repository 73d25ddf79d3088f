import DocumentSql.Proofs.Statement.Compile
import DocumentSql.Proofs.Statement.Join
import Mathlib.Data.List.Induction

/-!
# Joined tables are read-only

Tables are made one after the other: by a name, or as a join of two that were made before. A table
is a join exactly when the step that made it is one, and no write to a join has a text, whatever
else is wrong with it.

* `TableStep.isJoined_of_makeAll`: the joins among the tables that were made.
* `Statement.insertSql_of_isJoined` and its siblings: writes to a join are refused.
-/

set_option autoImplicit false

namespace DocumentSql

/-! ## Joins -/

namespace TableRef

theorem isJoined_of_equalityJoin {left right table : TableRef} {leftKey rightKey : String}
    (h : left.equalityJoin right leftKey rightKey = .ok table) : table.isJoined = true := by
  unfold equalityJoin at h
  split at h
  · cases h
  · exact isJoined_of_join h

end TableRef

/-! ## Tables that are made one after the other -/

/-- One way to make a table. Earlier tables are named by the number of the step that made them. -/
inductive TableStep where
  | plain (name : String)
  | natural (left right : Nat)
  | join (left right : Nat) (condition : JoinCondition)
  | equality (left right : Nat) (leftKey rightKey : String)

namespace TableStep

/-- The step joins two tables. -/
def isJoin : TableStep → Bool
  | .plain _ => false
  | .natural .. | .join .. | .equality .. => true

/-- The join of two tables of those `made` before; none where one is missing or the join is
refused. -/
def joinMade (made : List (Option TableRef)) (left right : Nat)
    (join : TableRef → TableRef → Except SchemaFault TableRef) : Option TableRef := do
  let l ← (made[left]?).join
  let r ← (made[right]?).join
  (join l r).toOption

/-- The table of a step, after those `made` before. -/
def make (made : List (Option TableRef)) : TableStep → Option TableRef
  | .plain name => some (.plain name)
  | .natural left right => joinMade made left right fun l r => .ok (.natural l r)
  | .join left right condition => joinMade made left right fun l r => l.join r condition
  | .equality left right leftKey rightKey =>
      joinMade made left right fun l r => l.equalityJoin r leftKey rightKey

/-- The tables of steps, one after the other. -/
def makeAll (steps : List TableStep) : List (Option TableRef) :=
  steps.foldl (fun made step => made ++ [step.make made]) []

theorem makeAll_snoc (steps : List TableStep) (step : TableStep) :
    makeAll (steps ++ [step]) = makeAll steps ++ [step.make (makeAll steps)] := by
  simp only [makeAll, List.foldl_append, List.foldl_cons, List.foldl_nil]

theorem length_makeAll (steps : List TableStep) : (makeAll steps).length = steps.length := by
  induction steps using List.reverseRecOn with
  | nil => rfl
  | append_singleton steps step ih => simp [makeAll_snoc, ih]

theorem joinMade_eq_some {made : List (Option TableRef)} {left right : Nat}
    {join : TableRef → TableRef → Except SchemaFault TableRef} {table : TableRef}
    (h : joinMade made left right join = some table) : ∃ l r, join l r = .ok table := by
  obtain ⟨l, -, h⟩ := Option.bind_eq_some_iff.mp h
  obtain ⟨r, -, h⟩ := Option.bind_eq_some_iff.mp h
  exact ⟨l, r, toOption_eq_some_iff.mp h⟩

/-- A step makes a join exactly when it joins. -/
theorem isJoined_of_make {made : List (Option TableRef)} {step : TableStep} {table : TableRef}
    (h : step.make made = some table) : table.isJoined = step.isJoin := by
  cases step with
  | plain name =>
      cases h
      rfl
  | natural left right =>
      obtain ⟨l, r, h⟩ := joinMade_eq_some h
      cases h
      rfl
  | join left right condition =>
      obtain ⟨l, r, h⟩ := joinMade_eq_some h
      exact TableRef.isJoined_of_join h
  | equality left right leftKey rightKey =>
      obtain ⟨l, r, h⟩ := joinMade_eq_some h
      exact TableRef.isJoined_of_equalityJoin h

/-- **The joins among the tables that were made** are those of the steps that join. -/
theorem isJoined_of_makeAll {steps : List TableStep} {i : Nat} {table : TableRef}
    (h : (makeAll steps)[i]? = some (some table)) :
    ∃ step, steps[i]? = some step ∧ table.isJoined = step.isJoin := by
  induction steps using List.reverseRecOn with
  | nil => cases h
  | append_singleton steps step ih =>
      rw [makeAll_snoc, List.getElem?_append, length_makeAll] at h
      rw [List.getElem?_append]
      -- an earlier table was made without the last step
      by_cases hi : i < steps.length
      · rw [if_pos hi] at h ⊢
        exact ih h
      · rw [if_neg hi] at h ⊢
        cases hlast : i - steps.length with
        | zero =>
            rw [hlast] at h
            have hmake : step.make (makeAll steps) = some table := Option.some.inj h
            exact ⟨step, rfl, isJoined_of_make hmake⟩
        | succ n =>
            rw [hlast] at h
            cases h

end TableStep

/-! ## Writes -/

namespace Statement

theorem guardWrite_of_isJoined {table : TableRef} (h : table.isJoined = true) (verb : String) :
    guardWrite table verb = .error (.writeGuard (.joinedTable verb table.name)) := by
  rw [guardWrite, if_pos h]

theorem insertSql_of_isJoined {table : TableRef} (h : table.isJoined = true) (row : Row) :
    insertSql table row = .error (.writeGuard (.joinedTable "insert into" table.name)) := by
  rw [insertSql, guardWrite_of_isJoined h]
  rfl

theorem updateSql_of_isJoined {table : TableRef} (h : table.isJoined = true) (c : Condition)
    (row : Row) :
    updateSql table c row = .error (.writeGuard (.joinedTable "update" table.name)) := by
  rw [updateSql, guardWrite_of_isJoined h]
  rfl

theorem deleteSql_of_isJoined {table : TableRef} (h : table.isJoined = true) (c : Condition) :
    deleteSql table c = .error (.writeGuard (.joinedTable "delete from" table.name)) := by
  rw [deleteSql, guardWrite_of_isJoined h]
  rfl

end Statement

end DocumentSql
