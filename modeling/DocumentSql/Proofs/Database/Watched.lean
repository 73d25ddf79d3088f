import DocumentSql.Proofs.Database.Run
import DocumentSql.Proofs.Database.Sending
import DocumentSql.Proofs.Monitor.Counting

/-!
# Watched servers

A connection that watches the server changes nothing of what the server receives. It changes an
answer only where the answer comes too late, and then the answer is a timeout. The statistics are
told about each statement that was sent, once, with the answer as it was returned, and about
nothing else.

* `Session.statistics_run`: the executions the statistics were told about.
* `watched_server_counts`: how a watched server differs from the bare one, and what is counted.
-/

set_option autoImplicit false

namespace DocumentSql

/-! ## Runs -/

/-- What a monitor is told about a text that is sent when `index` others were sent before. -/
def Watch.execution (watch : Watch) (script : Script) (index : Nat) (sql : String) : Execution :=
  Execution.ofReply sql (watch.limit (script.reply index))

/-- A server that is watched by the statistics. -/
def Connection.counted (script : Script) (timeout : Option Duration) : Connection :=
  ⟨script, some ⟨some .statistics, timeout⟩⟩

/-- The execution that the step of a number makes. -/
def executionAt? (script : Script) (watch : Watch) (steps : List SessionStep) (k : Nat) :
    Option Execution :=
  (textAt? steps k).map fun sql => watch.execution script (textsOf (steps.take k)).length sql

/-- The executions that steps make, in their order. -/
def executionsOf (script : Script) (watch : Watch) (steps : List SessionStep) : List Execution :=
  (List.range steps.length).filterMap (executionAt? script watch steps)

/-- The numbers of the steps that send a text. -/
def sendingSteps (steps : List SessionStep) : List Nat :=
  (List.range steps.length).filter fun k => (textAt? steps k).isSome

/-- **What steps make is counted by the steps that make it,** if each is told by its step. -/
theorem countP_filterMap_range {α : Type} {steps : List SessionStep} {made : Nat → Option α}
    {p : α → Bool} {q : Nat → Bool} (hmade : ∀ k, (made k).isSome = (textAt? steps k).isSome)
    (h : ∀ k a, made k = some a → p a = q k) :
    ((List.range steps.length).filterMap made).countP p = (sendingSteps steps).countP q := by
  rw [sendingSteps, List.countP_filterMap, List.countP_filter]
  refine List.countP_congr ?_
  intro k _
  rw [← hmade k]
  cases hk : made k with
  | none => simp
  | some a => simp [h k a hk]

/-- **Texts are counted by the steps that send them.** -/
theorem countP_textsOf {steps : List SessionStep} {p : String → Bool} {q : Nat → Bool}
    (h : ∀ k sql, textAt? steps k = some sql → p sql = q k) :
    (textsOf steps).countP p = (sendingSteps steps).countP q :=
  countP_filterMap_range (fun _ => rfl) h

theorem length_textsOf (steps : List SessionStep) :
    (textsOf steps).length = (sendingSteps steps).length := by
  have hcount : (textsOf steps).countP (fun _ => true) =
      (sendingSteps steps).countP (fun _ => true) := countP_textsOf fun _ _ _ => rfl
  simpa using hcount

theorem kind?_of_textAt? {steps : List SessionStep} {k : Nat} {sql : String}
    (h : textAt? steps k = some sql) :
    (steps[k]?).bind SessionStep.kind? = some (StatementKind.ofSql sql) := by
  obtain ⟨step, hstep, htext⟩ := Option.bind_eq_some_iff.mp h
  rw [hstep, Option.bind_some, SessionStep.kind?_of_text? htext]

section Executions

variable (script : Script) (watch : Watch)

theorem executionAt?_append {steps rest : List SessionStep} {k : Nat} (hk : k < steps.length) :
    executionAt? script watch (steps ++ rest) k = executionAt? script watch steps k := by
  rw [executionAt?, executionAt?, textAt?_append hk,
    List.take_append_of_le_length (Nat.le_of_lt hk)]

theorem executionAt?_length (steps : List SessionStep) (step : SessionStep) :
    executionAt? script watch (steps ++ [step]) steps.length =
      (step.text? (tablesAfter steps)).map fun sql =>
        watch.execution script (textsOf steps).length sql := by
  simp [executionAt?, textAt?_length]

theorem executionsOf_snoc (steps : List SessionStep) (step : SessionStep) :
    executionsOf script watch (steps ++ [step]) = executionsOf script watch steps ++
      ((step.text? (tablesAfter steps)).map fun sql =>
        watch.execution script (textsOf steps).length sql).toList := by
  have hbefore : (List.range steps.length).filterMap
      (executionAt? script watch (steps ++ [step])) = executionsOf script watch steps := by
    refine List.filterMap_congr ?_
    intro k hk
    exact executionAt?_append script watch (List.mem_range.mp hk)
  rw [executionsOf, List.length_append, List.length_singleton, List.range_succ,
    List.filterMap_append, hbefore]
  cases h : step.text? (tablesAfter steps) <;> simp [executionAt?_length, h]

/-- **Executions are counted by the steps that make them.** -/
theorem countP_executionsOf {steps : List SessionStep} {p : Execution → Bool} {q : Nat → Bool}
    (h : ∀ k e, executionAt? script watch steps k = some e → p e = q k) :
    (executionsOf script watch steps).countP p = (sendingSteps steps).countP q :=
  countP_filterMap_range (fun _ => Option.isSome_map) h

theorem length_executionsOf (steps : List SessionStep) :
    (executionsOf script watch steps).length = (sendingSteps steps).length := by
  have hcount : (executionsOf script watch steps).countP (fun _ => true) =
      (sendingSteps steps).countP (fun _ => true) :=
    countP_executionsOf script watch fun _ _ _ => rfl
  simpa using hcount

end Executions

namespace Session

theorem statistics_execute (script : Script) (timeout : Option Duration) (s : Session)
    (sql : String) :
    (s.execute (.counted script timeout) sql).2.statistics =
      s.statistics.record (Watch.execution ⟨some .statistics, timeout⟩ script s.sent.length sql) :=
  rfl

/-- **What a step tells the statistics:** its text and the answer, if it has a text. -/
theorem statistics_step (script : Script) (timeout : Option Duration) (s : Session)
    (step : SessionStep) :
    (s.step (.counted script timeout) step).2.statistics =
      ((step.text? s.handles).map fun sql =>
        Watch.execution ⟨some .statistics, timeout⟩ script s.sent.length sql).toList.foldl
          Statistics.record s.statistics := by
  have hsends := step_sends (.counted script timeout) s step
  cases h : step.text? s.handles with
  | none =>
      rw [h] at hsends
      exact hsends
  | some sql =>
      rw [h] at hsends
      obtain ⟨events, hevents⟩ := hsends
      rw [hevents, statistics_execute]
      rfl

/-- **The executions the statistics were told about** are those that the steps made. -/
theorem statistics_run (script : Script) (timeout : Option Duration) (steps : List SessionStep) :
    (run (.counted script timeout) start steps).2.statistics =
      (executionsOf script ⟨some .statistics, timeout⟩ steps).foldl Statistics.record
        Statistics.zero := by
  induction steps using List.reverseRecOn with
  | nil => rfl
  | append_singleton steps step ih =>
      rw [run_snoc, statistics_step, handles_run, sent_run, ih, executionsOf_snoc,
        List.foldl_append]

end Session

/-! ## Results -/

/-- The error of a step that failed. -/
def StepResult.error? : StepResult → Option QueryError
  | .error e => some e
  | _ => none

theorem isFailure_ofResponse (response : Response) :
    (Outcome.ofResponse response).isFailure = (Session.resultOf response).error?.isSome := by
  cases response <;> rfl

theorem isTimeout_ofResponse (response : Response) :
    (Outcome.ofResponse response).isTimeout =
      (Session.resultOf response).error?.any QueryError.isTimeout := by
  cases response <;> rfl

/-- The limit that the answer to the step of a number misses. -/
def missedLimit? (script : Script) (timeout : Option Duration) (steps : List SessionStep)
    (k : Nat) : Option Duration :=
  match textAt? steps k, timeout with
  | some _, some limit =>
      if limit.nanos < (script.reply (textsOf (steps.take k)).length).delay.nanos then some limit
      else none
  | _, _ => none

namespace Session

/-- The result of a step that sends a text is the answer to it. -/
theorem result_of_textAt? (connection : Connection) {steps : List SessionStep} {k : Nat}
    {sql : String} (h : textAt? steps k = some sql) :
    (run connection start steps).1[k]? =
      some (resultOf (connection.response (textsOf (steps.take k)).length)) := by
  obtain ⟨step, hstep, htext⟩ := Option.bind_eq_some_iff.mp h
  rw [result_run, hstep, Option.map_some, SessionStep.text?_eq_some_iff.mp htext]

/-- The result of a step that sends no text does not depend on the server. -/
theorem result_of_textAt?_eq_none {steps : List SessionStep} {k : Nat}
    (h : textAt? steps k = none) (connection other : Connection) :
    (run connection start steps).1[k]? = (run other start steps).1[k]? := by
  rw [result_run, result_run]
  cases hstep : steps[k]? with
  | none => rfl
  | some step =>
      rw [textAt?, hstep, Option.bind_some] at h
      rw [Option.map_some, Option.map_some]
      cases hcompiled : step.compiled? (tablesAfter (steps.take k)) with
      | none => rfl
      | some compiled =>
          cases compiled with
          | error error => rfl
          | ok sql =>
              rw [SessionStep.text?_eq_some_iff.mpr hcompiled] at h
              cases h

/-- **A watched server answers as the bare one,** or too late. -/
theorem result_watched (script : Script) (watch : Watch) (steps : List SessionStep) (k : Nat) :
    (run ⟨script, some watch⟩ start steps).1[k]? =
      match missedLimit? script watch.timeout steps k with
      | some limit => some (.error (.timeout limit))
      | none => (run ⟨script, none⟩ start steps).1[k]? := by
  unfold missedLimit?
  cases htext : textAt? steps k with
  | none => exact result_of_textAt?_eq_none htext _ _
  | some sql =>
      rw [result_of_textAt? _ htext, result_of_textAt? _ htext]
      simp only [Connection.response]
      cases htimeout : watch.timeout with
      | none => rw [Watch.limit_of_in_time (by simp [htimeout])]
      | some limit =>
          simp only
          by_cases hlate :
              limit.nanos < (script.reply (textsOf (steps.take k)).length).delay.nanos
          · rw [if_pos hlate, Watch.limit_of_too_late htimeout hlate]
            rfl
          · rw [if_neg hlate, Watch.limit_of_in_time (by simpa [htimeout] using hlate)]

/-- What the execution of a step tells of its answer is what the step returns. -/
theorem result_of_executionAt? {script : Script} {watch : Watch} {steps : List SessionStep}
    {k : Nat} {e : Execution} (h : executionAt? script watch steps k = some e) :
    ∃ response, e.outcome = Outcome.ofResponse response ∧
      (run ⟨script, some watch⟩ start steps).1[k]? = some (resultOf response) := by
  obtain ⟨sql, htext, rfl⟩ := Option.map_eq_some_iff.mp h
  exact ⟨_, rfl, result_of_textAt? _ htext⟩

end Session

/-! ## What is counted -/

namespace Session

variable (script : Script) (timeout : Option Duration) (steps : List SessionStep)

theorem executed_run :
    (run (.counted script timeout) start steps).2.statistics.executed =
      UInt64.ofNat (textsOf steps).length := by
  rw [statistics_run, Statistics.executed_foldl_record, length_executionsOf, length_textsOf]

/-- **The texts of a kind are counted,** and they are those of the steps of the kind. -/
theorem count_run (kind : StatementKind) :
    (run (.counted script timeout) start steps).2.statistics.count kind =
        UInt64.ofNat ((textsOf steps).countP fun sql => StatementKind.ofSql sql = kind) ∧
      ((textsOf steps).countP fun sql => StatementKind.ofSql sql = kind) =
        (sendingSteps steps).countP fun k => (steps[k]?).bind SessionStep.kind? = some kind := by
  have htexts : ((textsOf steps).countP fun sql => StatementKind.ofSql sql = kind) =
      (sendingSteps steps).countP fun k =>
        (steps[k]?).bind SessionStep.kind? = some kind := by
    refine countP_textsOf ?_
    intro k sql h
    simp [kind?_of_textAt? h]
  refine ⟨?_, htexts⟩
  rw [statistics_run, Statistics.count_foldl_record, htexts]
  congr 1
  refine countP_executionsOf script _ ?_
  intro k e h
  obtain ⟨sql, htext, rfl⟩ := Option.map_eq_some_iff.mp h
  have hkind : (Watch.execution ⟨some .statistics, timeout⟩ script
      (textsOf (steps.take k)).length sql).kind = StatementKind.ofSql sql := rfl
  simp [kind?_of_textAt? htext, hkind]

/-- **The steps that failed are counted,** as far as they sent a text. -/
theorem failed_run :
    (run (.counted script timeout) start steps).2.statistics.failed =
      UInt64.ofNat ((sendingSteps steps).countP fun k =>
        (((run (.counted script timeout) start steps).1[k]?).bind StepResult.error?).isSome) := by
  rw [statistics_run, Statistics.failed_foldl_record]
  congr 1
  refine countP_executionsOf script _ ?_
  intro k e h
  obtain ⟨response, houtcome, hresult⟩ := result_of_executionAt? h
  rw [houtcome, isFailure_ofResponse, Connection.counted, hresult]
  rfl

/-- **The steps that took too long are counted,** whoever says so. -/
theorem timedOut_run :
    (run (.counted script timeout) start steps).2.statistics.timedOut =
      UInt64.ofNat ((sendingSteps steps).countP fun k =>
        (((run (.counted script timeout) start steps).1[k]?).bind StepResult.error?).any
          QueryError.isTimeout) := by
  rw [statistics_run, Statistics.timedOut_foldl_record]
  congr 1
  refine countP_executionsOf script _ ?_
  intro k e h
  obtain ⟨response, houtcome, hresult⟩ := result_of_executionAt? h
  rw [houtcome, isTimeout_ofResponse, Connection.counted, hresult]
  rfl

end Session

/-- **A watched server** receives what the bare server receives. Each step returns what it returns
there, or a timeout where the answer to its text misses the limit. The statistics count, as words
of 64 bits, the texts that were sent, those of each kind, those that failed and those that took
too long; and the texts are those of the steps that have one. -/
theorem watched_server_counts (script : Script) (timeout : Option Duration)
    (steps : List SessionStep) :
    (∀ monitor : Option Monitor,
      (Session.run ⟨script, some ⟨monitor, timeout⟩⟩ Session.start steps).2.sent =
          (Session.run ⟨script, none⟩ Session.start steps).2.sent ∧
        ∀ k : Nat,
          (Session.run ⟨script, some ⟨monitor, timeout⟩⟩ Session.start steps).1[k]? =
            match missedLimit? script timeout steps k with
            | some limit => some (.error (.timeout limit))
            | none => (Session.run ⟨script, none⟩ Session.start steps).1[k]?) ∧
      let counted := Session.run ⟨script, some ⟨some .statistics, timeout⟩⟩ Session.start steps
      let statistics := counted.2.statistics
      let error? := fun k : Nat => (counted.1[k]?).bind StepResult.error?
      counted.2.sent.length = (sendingSteps steps).length ∧
        statistics.executed.toNat = counted.2.sent.length % UInt64.size ∧
        (∀ kind : StatementKind,
          (statistics.count kind).toNat =
              (counted.2.sent.countP fun sql => StatementKind.ofSql sql = kind) % UInt64.size ∧
            (counted.2.sent.countP fun sql => StatementKind.ofSql sql = kind) =
              (sendingSteps steps).countP fun k =>
                (steps[k]?).bind SessionStep.kind? = some kind) ∧
        statistics.failed.toNat =
          ((sendingSteps steps).countP fun k => (error? k).isSome) % UInt64.size ∧
        statistics.timedOut.toNat =
          ((sendingSteps steps).countP fun k => (error? k).any QueryError.isTimeout) %
            UInt64.size := by
  refine ⟨?_, ?_⟩
  · intro monitor
    refine ⟨?_, fun k => Session.result_watched script ⟨monitor, timeout⟩ steps k⟩
    rw [Session.sent_run, Session.sent_run]
  · have hsent : (Session.run ⟨script, some ⟨some .statistics, timeout⟩⟩ Session.start
        steps).2.sent = textsOf steps := Session.sent_run _ steps
    have hcounter : ∀ (counter : UInt64) (n : Nat), counter = UInt64.ofNat n →
        counter.toNat = n % UInt64.size := by
      rintro _ n rfl
      exact UInt64.toNat_ofNat'
    simp only
    rw [hsent]
    refine ⟨length_textsOf steps, hcounter _ _ (Session.executed_run script timeout steps), ?_,
      hcounter _ _ (Session.failed_run script timeout steps),
      hcounter _ _ (Session.timedOut_run script timeout steps)⟩
    intro kind
    obtain ⟨hcount, htexts⟩ := Session.count_run script timeout steps kind
    exact ⟨hcounter _ _ hcount, htexts⟩

end DocumentSql
