import DocumentSql.Monitor.Statistics

/-!
# What the counters count

A recorded execution is a list of counter steps, and each counter goes up by one with the steps of
one sort. So after any executions, from any state, it has gone up by the number of the executions
it counts. Counters are words of 64 bits, and so is that number here.

* `Statistics.Counts.foldl_record`: what a counter has after executions.
* `Statistics.counts_count` and its siblings: what the counters count.
-/

set_option autoImplicit false

namespace DocumentSql.Statistics

/-- The counter `get` goes up by one with each of the steps that are `moving`, and stays where it
is with every other. -/
def Counts (get : Statistics → UInt64) (moving : CounterStep → Bool) : Prop :=
  ∀ (s : Statistics) (step : CounterStep),
    get (s.apply step) = get s + if moving step then 1 else 0

theorem ofNat_ite_add (p : Bool) (n : Nat) :
    UInt64.ofNat (n + if p then 1 else 0) = UInt64.ofNat n + if p then 1 else 0 := by
  cases p with
  | false => simp
  | true => simp [UInt64.ofNat_add]

namespace Counts

variable {get : Statistics → UInt64} {moving : CounterStep → Bool}

/-- **Steps move a counter** once for each of them that is moving. -/
theorem foldl_apply (h : Counts get moving) (steps : List CounterStep) (s : Statistics) :
    get (steps.foldl apply s) = get s + UInt64.ofNat (steps.countP moving) := by
  induction steps generalizing s with
  | nil => simp
  | cons step steps ih =>
      rw [List.foldl_cons, ih, h, List.countP_cons, ofNat_ite_add, UInt64.add_assoc,
        UInt64.add_comm (if moving step then 1 else 0)]

/-- **Executions move a counter** once for each of them that has a moving step. -/
theorem foldl_record (h : Counts get moving) {counted : Execution → Bool}
    (hsteps : ∀ e, (steps e).countP moving = if counted e then 1 else 0)
    (executions : List Execution) (s : Statistics) :
    get (executions.foldl record s) = get s + UInt64.ofNat (executions.countP counted) := by
  induction executions generalizing s with
  | nil => simp
  | cons e executions ih =>
      have hrecord : get (s.record e) = get s + if counted e then 1 else 0 := by
        rw [record, h.foldl_apply, hsteps]
        cases counted e <;> rfl
      rw [List.foldl_cons, ih, hrecord, List.countP_cons, ofNat_ite_add, UInt64.add_assoc,
        UInt64.add_comm (if counted e then 1 else 0)]

end Counts

/-! ## The counters -/

theorem counts_count (kind : StatementKind) :
    Counts (fun s => s.count kind) fun step => step = .ran kind := by
  intro s step
  cases step with
  | ran ranKind => cases ranKind <;> cases kind <;> simp [apply, count]
  | _ => cases kind <;> simp [apply, count]

/-- The step is that of a kind. -/
def CounterStep.isRan : CounterStep → Bool
  | .ran _ => true
  | _ => false

theorem counts_executed : Counts executed CounterStep.isRan := by
  intro s step
  cases step with
  | ran kind => cases kind <;> simp only [apply, executed, CounterStep.isRan, if_true] <;> ac_rfl
  | _ => simp [apply, executed, CounterStep.isRan]

theorem counts_failed : Counts failed fun step => step = .failed := by
  intro s step
  cases step with
  | ran kind => cases kind <;> simp [apply]
  | _ => simp [apply]

theorem counts_timedOut : Counts timedOut fun step => step = .timedOut := by
  intro s step
  cases step with
  | ran kind => cases kind <;> simp [apply]
  | _ => simp [apply]

/-! ## Executions -/

/-- The moving ones among the steps of an execution, where times move nothing. -/
theorem countP_steps {moving : CounterStep → Bool}
    (hadd : ∀ nanos, moving (.addTime nanos) = false)
    (hlongest : ∀ nanos, moving (.longest nanos) = false) (e : Execution) :
    (steps e).countP moving =
      (if moving (.ran e.kind) then 1 else 0) +
        ((if e.outcome.isFailure && moving .failed then 1 else 0) +
          if e.outcome.isTimeout && moving .timedOut then 1 else 0) := by
  have htimes : [CounterStep.addTime (countedNanos e), .longest (countedNanos e)].countP moving =
      0 := by
    simp [hadd, hlongest]
  rw [steps, List.countP_cons, List.countP_append, List.countP_append, htimes, Nat.add_zero,
    Nat.add_comm]
  cases e.outcome.isFailure <;> cases e.outcome.isTimeout <;> simp [List.countP_cons]

variable (executions : List Execution)

/-- **The executions of a kind.** -/
theorem count_foldl_record (kind : StatementKind) :
    (executions.foldl record zero).count kind =
      UInt64.ofNat (executions.countP fun e => e.kind = kind) := by
  have hsteps : ∀ e, (steps e).countP (fun step => step = .ran kind) =
      if decide (e.kind = kind) then 1 else 0 := by
    intro e
    simp [countP_steps]
  rw [(counts_count kind).foldl_record hsteps]
  cases kind <;> simp [zero, count]

/-- **All executions.** -/
theorem executed_foldl_record :
    (executions.foldl record zero).executed = UInt64.ofNat executions.length := by
  have hsteps : ∀ e, (steps e).countP CounterStep.isRan =
      if (fun _ : Execution => true) e then 1 else 0 := by
    intro e
    rw [countP_steps (fun _ => rfl) (fun _ => rfl)]
    simp [CounterStep.isRan]
  rw [counts_executed.foldl_record hsteps]
  simp [zero, executed]

/-- **The executions that failed.** -/
theorem failed_foldl_record :
    (executions.foldl record zero).failed =
      UInt64.ofNat (executions.countP fun e => e.outcome.isFailure) := by
  have hsteps : ∀ e, (steps e).countP (fun step => step = .failed) =
      if e.outcome.isFailure then 1 else 0 := by
    intro e
    simp [countP_steps]
  rw [counts_failed.foldl_record hsteps]
  simp [zero]

/-- **The executions that took too long.** -/
theorem timedOut_foldl_record :
    (executions.foldl record zero).timedOut =
      UInt64.ofNat (executions.countP fun e => e.outcome.isTimeout) := by
  have hsteps : ∀ e, (steps e).countP (fun step => step = .timedOut) =
      if e.outcome.isTimeout then 1 else 0 := by
    intro e
    simp [countP_steps]
  rw [counts_timedOut.foldl_record hsteps]
  simp [zero]

end DocumentSql.Statistics
