import DocumentSql.Statement.Kind

/-!
# Executions

What a monitor is told about a statement that has run.
-/

set_option autoImplicit false

namespace DocumentSql

/-- How a statement ended. -/
inductive Outcome where
  /-- It returned so many rows. -/
  | rows (count : Nat)
  /-- It failed. -/
  | failed (error : QueryError)

/-- The statement failed. -/
def Outcome.isFailure : Outcome → Bool
  | .rows _ => false
  | .failed _ => true

/-- The statement failed because it took too long. -/
def Outcome.isTimeout : Outcome → Bool
  | .rows _ => false
  | .failed error => error.isTimeout

/-- A timeout is a failure. -/
theorem Outcome.isFailure_of_isTimeout {outcome : Outcome} (h : outcome.isTimeout = true) :
    outcome.isFailure = true := by
  cases outcome with
  | rows count => cases h
  | failed error => rfl

/-- A statement that has run. -/
structure Execution where
  /-- Its text. -/
  sql : String
  /-- Its kind. -/
  kind : StatementKind
  /-- How long it took. -/
  elapsed : Duration
  /-- How it ended. -/
  outcome : Outcome

end DocumentSql
