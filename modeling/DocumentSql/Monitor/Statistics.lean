import DocumentSql.Monitor.Execution

/-!
# Statistics

Counters over the statements that have run. Counts are words of 64 bits. Times are kept in
nanoseconds and capped at `2 ^ 64 - 1`: a longer elapsed time counts as that, and so does a
longer total. Recording an execution is a sequence of steps, each of which changes a single
counter.
-/

set_option autoImplicit false

namespace DocumentSql

/-- The counters. -/
structure Statistics where
  selects : UInt64
  inserts : UInt64
  updates : UInt64
  deletes : UInt64
  others : UInt64
  /-- The statements that failed. -/
  failed : UInt64
  /-- The statements that took too long. -/
  timedOut : UInt64
  /-- The time of all statements together. -/
  totalNanos : Nat
  /-- The time of the longest statement. -/
  maxNanos : Nat
deriving DecidableEq

namespace Statistics

/-- All counters at zero. -/
def zero : Statistics := ⟨0, 0, 0, 0, 0, 0, 0, 0, 0⟩

/-- The greatest time that is told apart from longer ones: `2 ^ 64 - 1`. -/
def greatestNanos : Nat := 18446744073709551615

/-- The number of statements of a kind. -/
def count (s : Statistics) : StatementKind → UInt64
  | .select => s.selects
  | .insert => s.inserts
  | .update => s.updates
  | .delete => s.deletes
  | .other => s.others

/-- The number of all statements. -/
def executed (s : Statistics) : UInt64 :=
  s.selects + s.inserts + s.updates + s.deletes + s.others

/-- The time of all statements together. -/
def totalTime (s : Statistics) : Duration := ⟨s.totalNanos⟩

/-- The time of the longest statement. -/
def maxTime (s : Statistics) : Duration := ⟨s.maxNanos⟩

/-- A change of a single counter. -/
inductive CounterStep where
  /-- One more statement of a kind. -/
  | ran (kind : StatementKind)
  /-- One more failure. -/
  | failed
  /-- One more timeout. -/
  | timedOut
  /-- More time in total. -/
  | addTime (nanos : Nat)
  /-- A time that may be the longest. -/
  | longest (nanos : Nat)
deriving DecidableEq

/-- The counters after a step. -/
def apply (s : Statistics) : CounterStep → Statistics
  | .ran .select => { s with selects := s.selects + 1 }
  | .ran .insert => { s with inserts := s.inserts + 1 }
  | .ran .update => { s with updates := s.updates + 1 }
  | .ran .delete => { s with deletes := s.deletes + 1 }
  | .ran .other => { s with others := s.others + 1 }
  | .failed => { s with failed := s.failed + 1 }
  | .timedOut => { s with timedOut := s.timedOut + 1 }
  | .addTime nanos => { s with totalNanos := min greatestNanos (s.totalNanos + nanos) }
  | .longest nanos => { s with maxNanos := max s.maxNanos nanos }

/-- The time of an execution as it is counted. -/
def countedNanos (e : Execution) : Nat := min greatestNanos e.elapsed.nanos

/-- The steps of recording an execution, in order. -/
def steps (e : Execution) : List CounterStep :=
  let failure := if e.outcome.isFailure then [.failed] else []
  let timeout := if e.outcome.isTimeout then [.timedOut] else []
  .ran e.kind :: (failure ++ timeout ++ [.addTime (countedNanos e), .longest (countedNanos e)])

/-- The counters after an execution. -/
def record (s : Statistics) (e : Execution) : Statistics := (steps e).foldl apply s

/-- The counters after a reset, which puts each of them at zero. -/
def reset (s : Statistics) : Statistics :=
  { s with
    selects := 0, inserts := 0, updates := 0, deletes := 0, others := 0
    failed := 0, timedOut := 0, totalNanos := 0, maxNanos := 0 }

@[simp] theorem reset_eq_zero (s : Statistics) : s.reset = zero := rfl

end Statistics

/-- What is done with statistics. -/
inductive StatisticsStep where
  /-- An execution is recorded. -/
  | record (e : Execution)
  /-- The counters are put at zero. -/
  | reset

/-- The counters after a step. -/
def Statistics.next (s : Statistics) : StatisticsStep → Statistics
  | .record e => s.record e
  | .reset => s.reset

end DocumentSql
