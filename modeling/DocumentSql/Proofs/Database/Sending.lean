import DocumentSql.Proofs.Database.Step
import DocumentSql.Proofs.Statement.Kind

/-!
# What a step sends

A step with a text executes the text, after events of its own. A step without one leaves the
statistics alone. What a step sends is of the kind of the step: the kind of the statement it
builds, or that of a text given as it is.

* `SessionStep.kind?_of_text?`: the kind of what a step sends.
* `Session.step_sends`: a step executes its text, or leaves the statistics alone.
-/

set_option autoImplicit false

namespace DocumentSql

namespace SessionStep

/-- The kind of the statements that a step sends. -/
def kind? : SessionStep → Option StatementKind
  | .table _ | .naturalJoin .. | .join .. => none
  | .insert .. => some .insert
  | .select .. | .search .. => some .select
  | .update .. => some .update
  | .delete .. => some .delete
  | .execute sql => some (StatementKind.ofSql sql)

theorem text?_eq_some_iff {tables : List (Option TableRef)} {step : SessionStep} {sql : String} :
    step.text? tables = some sql ↔ step.compiled? tables = some (.ok sql) := by
  rw [text?, Option.bind_eq_some_iff]
  constructor
  · rintro ⟨compiled, hcompiled, hsql⟩
    rw [hcompiled, toOption_eq_some_iff.mp hsql]
  · intro h
    exact ⟨.ok sql, h, rfl⟩

theorem text?_join (tables : List (Option TableRef)) (left right : Nat)
    (condition : JoinCondition) : (join left right condition).text? tables = none := by
  show ((refusal? tables left right condition).map fun fault =>
    Except.error (QueryError.schema fault)).bind Except.toOption = none
  cases refusal? tables left right condition <;> rfl

/-- **The kind of a step is that of its text.** -/
theorem kind?_of_text? {tables : List (Option TableRef)} {step : SessionStep} {sql : String}
    (h : step.text? tables = some sql) : step.kind? = some (StatementKind.ofSql sql) := by
  rw [text?_eq_some_iff] at h
  -- what is built on a table is the text of a statement on it
  have hkind : ∀ (i : Nat) (statement : TableRef → Statement),
      ((tables[i]?).join.map fun t => (statement t).compile) = some (.ok sql) →
        ∃ t, StatementKind.ofSql sql = (statement t).kind := by
    intro i statement hbuilt
    obtain ⟨t, -, hcompile⟩ := Option.map_eq_some_iff.mp hbuilt
    exact ⟨t, StatementKind.ofSql_of_compile hcompile⟩
  cases step with
  | table name => cases h
  | naturalJoin left right => cases h
  | join left right condition =>
      rw [← text?_eq_some_iff, text?_join] at h
      cases h
  | insert i row =>
      obtain ⟨t, ht⟩ := hkind i (fun t => .insert t row) h
      rw [ht]
      rfl
  | select i condition columns post =>
      obtain ⟨t, ht⟩ := hkind i (fun t => .select t condition columns post) h
      rw [ht]
      rfl
  | update i condition row =>
      obtain ⟨t, ht⟩ := hkind i (fun t => .update t condition row) h
      rw [ht]
      rfl
  | delete i condition =>
      obtain ⟨t, ht⟩ := hkind i (fun t => .delete t condition) h
      rw [ht]
      rfl
  | search schema request =>
      obtain ⟨plan, -, hsql⟩ := bind_eq_ok_iff.mp (Option.some.inj h)
      rw [StatementKind.ofSql_of_compile hsql]
      rfl
  | execute sql' =>
      cases h
      rfl

end SessionStep

/-! ## Steps -/

namespace Session

variable (connection : Connection) (s : Session)

/-- The outcome of a step with a text is that of executing the text, after events of the step
itself. A step without a text leaves the statistics alone. -/
def Sends (outcome : StepResult × Session) : Option String → Prop
  | some sql => ∃ events, outcome = (s.report events).execute connection sql
  | none => outcome.2.statistics = s.statistics

theorem send_sends (statement : Statement) :
    Sends connection s (s.send connection statement) statement.compile.toOption := by
  cases h : statement.compile with
  | error error =>
      rw [send_of_error connection s h]
      rfl
  | ok sql => exact ⟨statement.events, by rw [send, h]⟩

theorem sendTo_sends (i : Nat) (statement : TableRef → Statement) :
    Sends connection s (s.sendTo connection i statement)
      (((s.table? i).map fun t => (statement t).compile).bind Except.toOption) := by
  unfold sendTo
  cases s.table? i with
  | none => rfl
  | some t => exact send_sends connection s (statement t)

theorem search_sends (schema : SearchSchema) (request : SearchRequest) :
    Sends connection s (s.search connection schema request)
      ((SessionStep.search schema request).text? s.handles) := by
  have htext : (SessionStep.search schema request).text? s.handles =
      (do
        let plan ← QueryError.ofSchema (schema.plan request)
        plan.sql).toOption := rfl
  rw [htext, search]
  cases schema.plan request with
  | error fault => rfl
  | ok plan =>
      have hsend := send_sends connection
        (s.report [.planned request.table request.keyword request.column]) plan.statement
      show Sends connection s _ plan.statement.compile.toOption
      cases h : plan.statement.compile.toOption with
      | none =>
          rw [h] at hsend
          exact hsend
      | some sql =>
          rw [h] at hsend
          obtain ⟨events, hevents⟩ := hsend
          refine ⟨.planned request.table request.keyword request.column :: events, ?_⟩
          simp only
          rw [hevents]
          simp [report]

theorem statistics_joinHandles (left right : Nat)
    (join : TableRef → TableRef → Except SchemaFault TableRef) :
    (s.joinHandles left right join).2.statistics = s.statistics := by
  unfold joinHandles
  split
  · next l r _ _ =>
    cases join l r <;> rfl
  · rfl

/-- **A step executes its text,** or leaves the statistics alone. -/
theorem step_sends (step : SessionStep) :
    Sends connection s (s.step connection step) (step.text? s.handles) := by
  cases step with
  | table name => rfl
  | naturalJoin left right => exact statistics_joinHandles s left right _
  | join left right condition =>
      rw [SessionStep.text?_join]
      exact statistics_joinHandles s left right _
  | insert i row => exact sendTo_sends connection s i fun t => .insert t row
  | select i condition columns post =>
      exact sendTo_sends connection s i fun t => .select t condition columns post
  | update i condition row => exact sendTo_sends connection s i fun t => .update t condition row
  | delete i condition => exact sendTo_sends connection s i fun t => .delete t condition
  | search schema request => exact search_sends connection s schema request
  | execute sql => exact ⟨[], by simp [report, step]⟩

end Session

end DocumentSql
