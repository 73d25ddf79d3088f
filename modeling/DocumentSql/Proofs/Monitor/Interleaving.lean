import DocumentSql.Proofs.Monitor.Counting
import Mathlib.Data.List.Perm.Basic
import Mathlib.Logic.Relation

/-!
# Recording at the same time

Calls that record executions share the counters. Each call takes its steps in its own order, and
between two of them any other call may take some of its own. A step reads and writes its counter
at once, so a state of the calls is the counters and what each call has still to do.

No such run loses a step: steps commute, so the counters after all pending steps are the same
before and after any step, and at the end, when nothing is pending, they are the counters
themselves.

* `Statistics.apply_comm`: any two steps commute.
* `Recordings.outlook_of_steps`: what every run keeps.
* `Recordings.counters_of_finished`: however calls are interleaved, the counters at the end are
  those of one call after the other.
-/

set_option autoImplicit false

namespace DocumentSql

namespace Statistics

/-! ## Steps commute -/

/-- Statistics are told apart by what can be asked of them. -/
theorem eq_of_counters {s t : Statistics} (hcount : ∀ kind, s.count kind = t.count kind)
    (hfailed : s.failed = t.failed) (htimedOut : s.timedOut = t.timedOut)
    (htotal : s.totalNanos = t.totalNanos) (hmax : s.maxNanos = t.maxNanos) : s = t := by
  have hselects := hcount .select
  have hinserts := hcount .insert
  have hupdates := hcount .update
  have hdeletes := hcount .delete
  have hothers := hcount .other
  cases s
  cases t
  simp_all [count]

theorem Counts.apply_comm {get : Statistics → UInt64} {moving : CounterStep → Bool}
    (h : Counts get moving) (s : Statistics) (a b : CounterStep) :
    get ((s.apply a).apply b) = get ((s.apply b).apply a) := by
  rw [h, h, h, h, UInt64.add_assoc, UInt64.add_assoc,
    UInt64.add_comm (if moving a then 1 else 0)]

/-- The total goes up with the times that are added. -/
theorem totalNanos_apply (s : Statistics) (step : CounterStep) :
    (s.apply step).totalNanos =
      match step with
      | .addTime nanos => min greatestNanos (s.totalNanos + nanos)
      | _ => s.totalNanos := by
  cases step with
  | ran kind => cases kind <;> rfl
  | _ => rfl

/-- The longest time is the longest of those that were reported. -/
theorem maxNanos_apply (s : Statistics) (step : CounterStep) :
    (s.apply step).maxNanos =
      match step with
      | .longest nanos => max s.maxNanos nanos
      | _ => s.maxNanos := by
  cases step with
  | ran kind => cases kind <;> rfl
  | _ => rfl

/-- **Any two steps commute.** -/
theorem apply_comm (s : Statistics) (a b : CounterStep) :
    (s.apply a).apply b = (s.apply b).apply a := by
  refine eq_of_counters ?_ ?_ ?_ ?_ ?_
  · exact fun kind => (counts_count kind).apply_comm s a b
  · exact counts_failed.apply_comm s a b
  · exact counts_timedOut.apply_comm s a b
  · -- a total that was capped stays at the cap, in either order
    cases a <;> cases b <;> simp only [totalNanos_apply]
    omega
  · cases a <;> cases b <;> simp only [maxNanos_apply]
    omega

instance : RightCommutative apply := ⟨apply_comm⟩

theorem foldl_record_eq_foldl_apply (s : Statistics) (executions : List Execution) :
    executions.foldl record s = (executions.flatMap steps).foldl apply s := by
  rw [List.foldl_flatMap]
  rfl

/-- **The order of executions does not matter.** -/
theorem foldl_record_of_perm {executions order : List Execution} (h : order.Perm executions)
    (s : Statistics) : order.foldl record s = executions.foldl record s := by
  rw [foldl_record_eq_foldl_apply, foldl_record_eq_foldl_apply]
  exact (h.flatMap_right steps).foldl_eq s

end Statistics

/-! ## Calls at the same time -/

/-- Calls that record executions at the same time. -/
structure Recordings where
  /-- The counters that they share. -/
  counters : Statistics
  /-- The steps that each call has still to take. -/
  pending : List (List Statistics.CounterStep)

namespace Recordings

open Relation (ReflTransGen)

/-- A call for each execution, none of which has taken a step. -/
def start (s : Statistics) (executions : List Execution) : Recordings :=
  ⟨s, executions.map Statistics.steps⟩

/-- One of the calls takes the next of its steps. -/
inductive Step : Recordings → Recordings → Prop
  | take (s : Statistics) (before : List (List Statistics.CounterStep))
      (step : Statistics.CounterStep) (rest : List Statistics.CounterStep)
      (after : List (List Statistics.CounterStep)) :
      Step ⟨s, before ++ (step :: rest) :: after⟩ ⟨s.apply step, before ++ rest :: after⟩

/-- All calls have taken all their steps. -/
def IsFinished (r : Recordings) : Prop := ∀ rest ∈ r.pending, rest = []

/-- The counters after the pending steps of one call after the other. -/
def outlook (r : Recordings) : Statistics := r.pending.flatten.foldl Statistics.apply r.counters

/-! ### What a run keeps -/

/-- **A step keeps the outlook:** it is taken now instead of later, and steps commute. -/
theorem outlook_of_step {r r' : Recordings} (h : Step r r') : r'.outlook = r.outlook := by
  cases h with
  | take s before step rest after =>
      have hperm : (before ++ (step :: rest) :: after).flatten.Perm
          (step :: (before ++ rest :: after).flatten) := by
        simp only [List.flatten_append, List.flatten_cons, List.cons_append]
        exact List.perm_middle
      rw [outlook, outlook, hperm.foldl_eq s, List.foldl_cons]

/-- **A run keeps the outlook.** -/
theorem outlook_of_steps {r r' : Recordings} (h : ReflTransGen Step r r') :
    r'.outlook = r.outlook := by
  induction h with
  | refl => rfl
  | tail hrun hstep ih => rw [outlook_of_step hstep, ih]

theorem outlook_start (s : Statistics) (executions : List Execution) :
    (start s executions).outlook = executions.foldl Statistics.record s := by
  rw [Statistics.foldl_record_eq_foldl_apply, outlook, start, ← List.flatMap_def]

theorem IsFinished.outlook_eq {r : Recordings} (h : r.IsFinished) : r.outlook = r.counters := by
  have hnone : r.pending.flatten = [] := List.flatten_eq_nil_iff.mpr h
  rw [outlook, hnone, List.foldl_nil]

/-! ### Runs come to an end -/

/-- A call that has a step to take can take it. -/
theorem exists_step {r : Recordings} (h : ¬ r.IsFinished) :
    ∃ r', Step r r' ∧ r.pending.flatten.length = r'.pending.flatten.length + 1 := by
  obtain ⟨s, pending⟩ := r
  simp only [IsFinished, not_forall] at h
  obtain ⟨todo, htodo, hne⟩ := h
  obtain ⟨before, after, rfl⟩ := List.append_of_mem htodo
  obtain ⟨step, rest, rfl⟩ := List.exists_cons_of_ne_nil hne
  refine ⟨_, .take s before step rest after, ?_⟩
  simp only [List.flatten_append, List.flatten_cons, List.length_append, List.length_cons]
  omega

theorem exists_finished (r : Recordings) :
    ∃ final, ReflTransGen Step r final ∧ final.IsFinished := by
  -- by induction on the number of pending steps, of which each step takes one
  induction hn : r.pending.flatten.length generalizing r with
  | zero =>
      have hnone : r.pending.flatten = [] := List.length_eq_zero_iff.mp hn
      exact ⟨r, .refl, List.flatten_eq_nil_iff.mp hnone⟩
  | succ n ih =>
      have hunfinished : ¬ r.IsFinished := by
        intro h
        rw [List.flatten_eq_nil_iff.mpr h] at hn
        cases hn
      obtain ⟨r', hstep, hlength⟩ := exists_step hunfinished
      obtain ⟨final, hrun, hfinal⟩ := ih r' (by omega)
      exact ⟨final, .head hstep hrun, hfinal⟩

/-- **No step is lost:** calls can be interleaved to their end, and however that is done, the
counters are then those of the same executions recorded one after the other, in any order. -/
theorem counters_of_finished (s : Statistics) (executions : List Execution) :
    (∃ final, ReflTransGen Step (start s executions) final ∧ final.IsFinished) ∧
      ∀ final, ReflTransGen Step (start s executions) final → final.IsFinished →
        ∀ order : List Execution, order.Perm executions →
          final.counters = order.foldl Statistics.record s := by
  refine ⟨exists_finished _, ?_⟩
  intro final hrun hfinished order horder
  calc final.counters
      = final.outlook := hfinished.outlook_eq.symm
    _ = (start s executions).outlook := outlook_of_steps hrun
    _ = executions.foldl Statistics.record s := outlook_start s executions
    _ = order.foldl Statistics.record s := (Statistics.foldl_record_of_perm horder s).symm

/-- A timeout and a query that take turns; the time of the first is beyond the cap. One SELECT and
one DELETE are counted, with a single failure, which is the timeout, and both times are at the
cap. -/
theorem counters_of_finished_turns :
    let late : Execution :=
      ⟨"DELETE FROM pets", .delete, ⟨20000000000000000000⟩, .failed (.timeout ⟨5⟩)⟩
    let query : Execution := ⟨"SELECT 1", .select, ⟨7⟩, .rows 1⟩
    ∃ final, ReflTransGen Step (start .zero [late, query]) final ∧ final.IsFinished ∧
      [query, late].Perm [late, query] ∧
        final.counters = [query, late].foldl Statistics.record .zero ∧
        final.counters =
          ⟨1, 0, 0, 1, 0, 1, 1, Statistics.greatestNanos, Statistics.greatestNanos⟩ := by
  intro late query
  have hrun : ReflTransGen Step (start .zero [late, query]) ⟨_, [[], []]⟩ :=
    .head (.take _ [] (.ran .delete) _ [_]) <| .head (.take _ [_] (.ran .select) _ []) <|
      .head (.take _ [_] (.addTime 7) _ []) <| .head (.take _ [] .failed _ [_]) <|
      .head (.take _ [] .timedOut _ [_]) <|
      .head (.take _ [] (.addTime Statistics.greatestNanos) _ [_]) <|
      .head (.take _ [] (.longest Statistics.greatestNanos) [] [_]) <|
      .head (.take _ [[]] (.longest 7) [] []) .refl
  have hfinished : ∀ s, IsFinished ⟨s, [[], []]⟩ := by simp [IsFinished]
  have horder : [query, late].Perm [late, query] := .swap late query []
  have hcounters :=
    (counters_of_finished .zero [late, query]).2 _ hrun (hfinished _) [query, late] horder
  exact ⟨_, hrun, hfinished _, horder, hcounters, hcounters.trans (by decide +kernel)⟩

end Recordings

end DocumentSql
