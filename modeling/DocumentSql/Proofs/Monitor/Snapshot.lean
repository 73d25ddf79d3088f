import DocumentSql.Proofs.Monitor.Interleaving
import Mathlib.Algebra.GroupWithZero.Nat
import Mathlib.Algebra.Order.BigOperators.Group.List
import Mathlib.Algebra.Order.Group.Nat
import Mathlib.Data.List.DropRight

/-!
# What statistics tell

After any recordings and resets the statistics are about the executions since the last reset, and
about nothing before it. Counters are words, which say the numbers themselves as long as fewer
executions were recorded than there are words. Times never wrap: an elapsed time beyond the
greatest counts as the greatest, and so does a total beyond it.

* `Statistics.after_eq`: a reset forgets what was recorded before.
* `Statistics.describes_foldl_record`: what the counters say of recorded executions.
* `Statistics.describes_after`: what they say after recordings and resets.
-/

set_option autoImplicit false

namespace DocumentSql

/-! ## Recordings and resets -/

/-- The execution that is recorded, if one is. -/
def StatisticsStep.execution? : StatisticsStep → Option Execution
  | .record e => some e
  | .reset => none

/-- All executions that steps record. -/
def executionsIn (steps : List StatisticsStep) : List Execution :=
  steps.filterMap StatisticsStep.execution?

/-- The executions that are recorded after the last reset, or from the start if there is none. -/
def sinceReset (steps : List StatisticsStep) : List Execution :=
  executionsIn (steps.rtakeWhile fun step => step.execution?.isSome)

theorem sinceReset_record (steps : List StatisticsStep) (e : Execution) :
    sinceReset (steps ++ [.record e]) = sinceReset steps ++ [e] := by
  rw [sinceReset, List.rtakeWhile_concat_pos _ _ _ rfl, executionsIn, List.filterMap_append]
  rfl

theorem sinceReset_reset (steps : List StatisticsStep) :
    sinceReset (steps ++ [.reset]) = [] := by
  rw [sinceReset, List.rtakeWhile_concat_neg _ _ _ (by decide)]
  rfl

theorem length_sinceReset_le (steps : List StatisticsStep) :
    (sinceReset steps).length ≤ (executionsIn steps).length :=
  ((List.rtakeWhile_suffix _ steps).sublist.filterMap _).length_le

namespace Statistics

/-- The counters after steps from the start. -/
def after (steps : List StatisticsStep) : Statistics := steps.foldl next zero

theorem after_append (steps rest : List StatisticsStep) :
    after (steps ++ rest) = rest.foldl next (after steps) := List.foldl_append

/-- **A reset forgets what was recorded before.** -/
theorem after_eq (steps : List StatisticsStep) :
    after steps = (sinceReset steps).foldl record zero := by
  induction steps using List.reverseRecOn with
  | nil => rfl
  | append_singleton steps step ih =>
      rw [after_append, List.foldl_cons, List.foldl_nil]
      cases step with
      | record e => rw [next, sinceReset_record, List.foldl_append, ih]; rfl
      | reset => rw [next, reset_eq_zero, sinceReset_reset, List.foldl_nil]

theorem foldl_next_record (s : Statistics) (batch : List Execution) :
    (batch.map .record).foldl next s = batch.foldl record s := by
  rw [List.foldl_map]
  rfl

/-! ## Times -/

theorem totalNanos_record (s : Statistics) (e : Execution) :
    (s.record e).totalNanos = min greatestNanos (s.totalNanos + countedNanos e) := by
  rw [record, steps]
  cases e.outcome.isFailure <;> cases e.outcome.isTimeout <;> simp [totalNanos_apply]

theorem maxNanos_record (s : Statistics) (e : Execution) :
    (s.record e).maxNanos = max s.maxNanos (countedNanos e) := by
  rw [record, steps]
  cases e.outcome.isFailure <;> cases e.outcome.isTimeout <;> simp [maxNanos_apply]

/-- **The total** is capped once, however often it was capped on the way. -/
theorem totalNanos_foldl_record (executions : List Execution) :
    (executions.foldl record zero).totalNanos =
      min greatestNanos (executions.map countedNanos).sum := by
  induction executions using List.reverseRecOn with
  | nil => rfl
  | append_singleton executions e ih =>
      rw [List.foldl_append, List.foldl_cons, List.foldl_nil, totalNanos_record, ih,
        List.map_append, List.sum_append, List.map_singleton, List.sum_singleton]
      omega

theorem maxNanos_foldl (executions : List Execution) (s : Statistics) :
    (executions.foldl record s).maxNanos = (executions.map countedNanos).foldl max s.maxNanos := by
  induction executions generalizing s with
  | nil => rfl
  | cons e executions ih =>
      rw [List.foldl_cons, ih, maxNanos_record, List.map_cons, List.foldl_cons]

/-- **The longest time.** -/
theorem maxNanos_foldl_record (executions : List Execution) :
    (executions.foldl record zero).maxNanos = (executions.map countedNanos).max?.getD 0 := by
  rw [maxNanos_foldl, List.foldl_max]
  exact Nat.zero_max _

/-! ## What statistics tell -/

/-- Statistics tell the numbers and the times of executions. A time beyond the greatest counts as
the greatest, and so does their sum. -/
structure Describes (s : Statistics) (executions : List Execution) : Prop where
  count : ∀ kind, (s.count kind).toNat = executions.countP fun e => e.kind = kind
  executed : s.executed.toNat = executions.length
  failed : s.failed.toNat = executions.countP fun e => e.outcome.isFailure
  timedOut : s.timedOut.toNat = executions.countP fun e => e.outcome.isTimeout
  totalTime : s.totalTime =
    ⟨min greatestNanos (executions.map fun e => min greatestNanos e.elapsed.nanos).sum⟩
  maxTime : s.maxTime =
    ⟨(executions.map fun e => min greatestNanos e.elapsed.nanos).max?.getD 0⟩

/-- **Recorded executions are described** if there are fewer of them than words. -/
theorem describes_foldl_record {executions : List Execution}
    (h : executions.length < UInt64.size) :
    (executions.foldl record zero).Describes executions := by
  have hcountP : ∀ p : Execution → Bool,
      (UInt64.ofNat (executions.countP p)).toNat = executions.countP p := fun p =>
    UInt64.toNat_ofNat_of_lt' (Nat.lt_of_le_of_lt List.countP_le_length h)
  constructor
  case count => exact fun kind => by rw [count_foldl_record, hcountP]
  case executed => rw [executed_foldl_record, UInt64.toNat_ofNat_of_lt' h]
  case failed => rw [failed_foldl_record, hcountP]
  case timedOut => rw [timedOut_foldl_record, hcountP]
  case totalTime => exact congrArg Duration.mk (totalNanos_foldl_record executions)
  case maxTime => exact congrArg Duration.mk (maxNanos_foldl_record executions)

/-- Statistics whose counters agree with one another: a timeout is a failure, a failure is of an
execution, each execution has one of the five kinds, and the longest time is part of the total. -/
structure Consistent (s : Statistics) : Prop where
  timedOut_le_failed : s.timedOut ≤ s.failed
  failed_le_executed : s.failed ≤ s.executed
  sum_count : (s.count .select).toNat + (s.count .insert).toNat + (s.count .update).toNat +
    (s.count .delete).toNat + (s.count .other).toNat = s.executed.toNat
  maxTime_le_totalTime : s.maxTime.nanos ≤ s.totalTime.nanos

theorem length_eq_sum_countP (executions : List Execution) :
    executions.length = executions.countP (fun e => e.kind = .select) +
      executions.countP (fun e => e.kind = .insert) +
      executions.countP (fun e => e.kind = .update) +
      executions.countP (fun e => e.kind = .delete) +
      executions.countP (fun e => e.kind = .other) := by
  induction executions with
  | nil => rfl
  | cons e executions ih =>
      rw [List.length_cons, ih]
      cases hkind : e.kind <;> simp [hkind] <;> omega

/-- **Statistics that describe executions are consistent.** -/
theorem Describes.consistent {s : Statistics} {executions : List Execution}
    (h : s.Describes executions) : s.Consistent := by
  constructor
  case timedOut_le_failed =>
    rw [UInt64.le_iff_toNat_le, h.timedOut, h.failed]
    exact List.countP_mono_left fun e _ htimeout => Outcome.isFailure_of_isTimeout htimeout
  case failed_le_executed =>
    rw [UInt64.le_iff_toNat_le, h.failed, h.executed]
    exact List.countP_le_length
  case sum_count =>
    simp only [h.count, h.executed]
    exact (length_eq_sum_countP executions).symm
  case maxTime_le_totalTime =>
    rw [h.maxTime, h.totalTime]
    cases hmax : (executions.map fun e => min greatestNanos e.elapsed.nanos).max? with
    | none => exact Nat.zero_le _
    | some longest =>
        -- the longest of the times is one of them, so it is capped and part of the sum
        have hmem := List.max?_mem hmax
        obtain ⟨e, -, rfl⟩ := List.mem_map.mp hmem
        exact Nat.le_min.mpr ⟨Nat.min_le_left _ _, List.le_sum_of_mem hmem⟩

/-- **The statistics after recordings and resets** describe the executions since the last reset.
Executions that are recorded one after the other may change places. -/
theorem describes_after {steps : List StatisticsStep}
    (h : (executionsIn steps).length < UInt64.size) :
    (after steps).Describes (sinceReset steps) ∧ (after steps).Consistent ∧
      ∀ (before : List StatisticsStep) (batch order : List Execution)
        (rest : List StatisticsStep), steps = before ++ batch.map .record ++ rest →
          order.Perm batch → after (before ++ order.map .record ++ rest) = after steps := by
  have hlength : (sinceReset steps).length < UInt64.size :=
    Nat.lt_of_le_of_lt (length_sinceReset_le steps) h
  have hdescribes : (after steps).Describes (sinceReset steps) := by
    rw [after_eq]
    exact describes_foldl_record hlength
  refine ⟨hdescribes, hdescribes.consistent, ?_⟩
  rintro before batch order rest rfl hperm
  simp only [after_append, foldl_next_record]
  rw [foldl_record_of_perm hperm]

/-- A timeout is recorded before a reset, and again after it behind a query. -/
theorem describes_after_reset :
    let late : Execution :=
      ⟨"DELETE FROM pets", .delete, ⟨20000000000000000000⟩, .failed (.timeout ⟨5⟩)⟩
    let query : Execution := ⟨"SELECT 1", .select, ⟨7⟩, .rows 1⟩
    let steps : List StatisticsStep := [.record late, .reset, .record query, .record late]
    (executionsIn steps).length < UInt64.size ∧
      (after steps).Describes [query, late] ∧ (after steps).Consistent ∧
        after [.record late, .reset, .record late, .record query] = after steps := by
  intro late query steps
  have hlength : (executionsIn steps).length < UInt64.size := by
    show 3 < UInt64.size
    decide
  obtain ⟨hdescribes, hconsistent, horder⟩ := describes_after hlength
  exact ⟨hlength, hdescribes, hconsistent,
    horder [.record late, .reset] [query, late] [late, query] [] rfl (.swap query late [])⟩

end Statistics

end DocumentSql
