import DocumentSql.Event
import DocumentSql.Monitor.Execution

/-!
# The statement log

A monitor that reports every statement it is told about. A long text is cut to a number of
bytes, between two characters, and a statement that took longer than a threshold is reported
as slow.
-/

set_option autoImplicit false

namespace DocumentSql

/-- How statements are reported. -/
structure StatementLog where
  /-- Longer statements are slow. -/
  slowThreshold : Option Duration
  /-- Longer texts are cut. -/
  maxBytes : Option Nat

namespace StatementLog

/-- No statement is slow, and texts are cut at 256 bytes. -/
def default : StatementLog := ⟨none, some 256⟩

/-- The place after the first `i` bytes, unless it lies inside a character: there the byte behind
it is not the first one of its character. -/
def placeAt? (sql : String) (i : Nat) : Option sql.Pos :=
  if h : String.Pos.Raw.isValid sql ⟨i⟩ then
    some ⟨⟨i⟩, String.Pos.Raw.isValid_eq_true_iff.mp h⟩
  else none

/-- The search for a place that is not inside a character: at `i` bytes, and then a byte further
down each time. It fails if it has to go on below the first byte. -/
def placeBelow? (sql : String) : Nat → Option sql.Pos
  | 0 => placeAt? sql 0
  | i + 1 =>
      match placeAt? sql (i + 1) with
      | some place => some place
      | none => placeBelow? sql i

/-- The search ends at the first byte, if not before. -/
theorem isSome_placeBelow? (sql : String) (i : Nat) : (placeBelow? sql i).isSome := by
  induction i with
  | zero =>
      have hstart : String.Pos.Raw.isValid sql ⟨0⟩ :=
        String.Pos.Raw.isValid_eq_true_iff.mpr String.Pos.Raw.isValid_zero
      rw [placeBelow?, placeAt?, dif_pos hstart]
      rfl
  | succ i ih =>
      rw [placeBelow?]
      split
      · rfl
      · exact ih

/-- The beginning of a text up to the last place within `max` bytes that is not inside a
character. -/
def cut (sql : String) (max : Nat) : String :=
  (sql.sliceTo ((placeBelow? sql max).get (isSome_placeBelow? sql max))).copy

/-- The text, or its beginning and three dots if it is too long. -/
def shorten (log : StatementLog) (sql : String) : String :=
  match log.maxBytes with
  | none => sql
  | some max => if sql.utf8ByteSize ≤ max then sql else cut sql max ++ "..."

/-- A statement that took so long is slow. -/
def isSlow (log : StatementLog) (elapsed : Duration) : Bool :=
  match log.slowThreshold with
  | none => false
  | some threshold => threshold.nanos < elapsed.nanos

/-- The report of an execution. -/
def event (log : StatementLog) (e : Execution) : Event :=
  let sql := log.shorten e.sql
  match e.outcome with
  | .failed error => .failed e.kind e.elapsed error.message sql
  | .rows count =>
      if log.isSlow e.elapsed then .slow e.kind e.elapsed count sql
      else .executed e.kind e.elapsed count sql

end StatementLog

end DocumentSql
