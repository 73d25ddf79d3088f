import DocumentSql.Database.Session
import DocumentSql.Proofs.Statement.Guard

/-!
# What a step of a session does

A step makes a table, or it has a statement for the server. The statement is built from the tables
that were made before, and it has a text or a fault. Only a text is sent, once, and the answer is
the result of the step. `Session.step_does` says all of this; nothing else about sessions opens
the definition of a step.
-/

set_option autoImplicit false

namespace DocumentSql

/-- The answer to the statement that `index` others came before. -/
def Connection.response (connection : Connection) (index : Nat) : Response :=
  match connection.watch with
  | none => (connection.script.reply index).response
  | some watch => (watch.limit (connection.script.reply index)).response

namespace SessionStep

/-- How the step makes a table, if it does. -/
def tableStep? : SessionStep → Option TableStep
  | .table name => some (.plain name)
  | .naturalJoin left right => some (.natural left right)
  | .join left right condition => some (.join left right condition)
  | _ => none

/-- The fault of a join of two tables that were made. -/
def refusal? (tables : List (Option TableRef)) (left right : Nat) (condition : JoinCondition) :
    Option SchemaFault :=
  match (tables[left]?).join, (tables[right]?).join with
  | some l, some r =>
      match l.join r condition with
      | .ok _ => none
      | .error fault => some fault
  | _, _ => none

/-- What the builders make of a step, after the given tables: a text for the server, or a fault.
None for a step that makes a table, and for one that names a table that was not made. -/
def compiled? (tables : List (Option TableRef)) : SessionStep → Option (Except QueryError String)
  | .table _ | .naturalJoin .. => none
  | .join left right condition =>
      (refusal? tables left right condition).map fun fault => .error (.schema fault)
  | .insert i row => (tables[i]?).join.map fun t => Statement.insertSql t row
  | .select i condition columns post =>
      (tables[i]?).join.map fun t => Statement.selectSql t condition columns post
  | .update i condition row =>
      (tables[i]?).join.map fun t => Statement.updateSql t condition row
  | .delete i condition => (tables[i]?).join.map fun t => Statement.deleteSql t condition
  | .search schema request =>
      some (do
        let plan ← QueryError.ofSchema (schema.plan request)
        plan.sql)
  | .execute sql => some (.ok sql)

/-- The text that a step sends. -/
def text? (tables : List (Option TableRef)) (step : SessionStep) : Option String :=
  (step.compiled? tables).bind Except.toOption

/-- The result of a step for which the builders made nothing: its table, if it makes one. -/
def handled (tables : List (Option TableRef)) (step : SessionStep) : StepResult :=
  match step.tableStep?.bind fun t => t.make tables with
  | some made => .handle made
  | none => .noTable

end SessionStep

namespace Session

/-- The outcome of a step for which the builders made `compiled`, and which adds the tables `made`.
A text is sent and answered, and a fault is the result, as is `otherwise` where there is neither. -/
structure Does (connection : Connection) (s : Session) (outcome : StepResult × Session)
    (compiled : Option (Except QueryError String)) (otherwise : StepResult)
    (made : List (Option TableRef)) : Prop where
  result : outcome.1 =
    match compiled with
    | some (.ok _) => resultOf (connection.response s.sent.length)
    | some (.error error) => .error error
    | none => otherwise
  handles : outcome.2.handles = s.handles ++ made
  sent : outcome.2.sent = s.sent ++ (compiled.bind Except.toOption).toList

variable (connection : Connection) (s : Session)

/-! ## Statements -/

theorem response_of_receive (sql : String) :
    (s.receive connection sql).1 = connection.response s.sent.length := by
  unfold receive Connection.response
  cases connection.watch <;> rfl

/-- A monitor that is told about a statement changes the statistics or the events. -/
theorem tell_eq (e : Execution) (monitor : Option Monitor) :
    (s.tell e monitor).handles = s.handles ∧ (s.tell e monitor).sent = s.sent := by
  cases monitor with
  | none => exact ⟨rfl, rfl⟩
  | some monitor => cases monitor <;> exact ⟨rfl, rfl⟩

theorem session_of_receive (sql : String) :
    (s.receive connection sql).2.handles = s.handles ∧
      (s.receive connection sql).2.sent = s.sent ++ [sql] := by
  unfold receive
  cases connection.watch with
  | none => exact ⟨rfl, rfl⟩
  | some watch => exact tell_eq ..

theorem execute_does (sql : String) (otherwise : StepResult) :
    Does connection s (s.execute connection sql) (some (.ok sql)) otherwise [] := by
  obtain ⟨hhandles, hsent⟩ := session_of_receive connection (s.report [.executing sql]) sql
  refine ⟨?_, ?_, hsent⟩
  · exact congrArg resultOf (response_of_receive connection (s.report [.executing sql]) sql)
  · rw [List.append_nil]
    exact hhandles

theorem fails_does (error : QueryError) (otherwise : StepResult) :
    Does connection s (.error error, s) (some (.error error)) otherwise [] :=
  ⟨rfl, (List.append_nil _).symm, (List.append_nil _).symm⟩

theorem send_of_error {statement : Statement} {error : QueryError}
    (h : statement.compile = .error error) : s.send connection statement = (.error error, s) := by
  rw [send, h]

theorem send_does (statement : Statement) (otherwise : StepResult) :
    Does connection s (s.send connection statement) (some statement.compile) otherwise [] := by
  cases h : statement.compile with
  | error error =>
      rw [send_of_error connection s h]
      exact fails_does connection s error otherwise
  | ok sql =>
      rw [send, h]
      obtain ⟨hresult, hhandles, hsent⟩ :=
        execute_does connection (s.report statement.events) sql otherwise
      exact ⟨hresult, hhandles, hsent⟩

theorem sendTo_does (i : Nat) (statement : TableRef → Statement) :
    Does connection s (s.sendTo connection i statement)
      ((s.table? i).map fun t => (statement t).compile) .noTable [] := by
  unfold sendTo
  cases s.table? i with
  | none => exact ⟨rfl, (List.append_nil _).symm, (List.append_nil _).symm⟩
  | some t => exact send_does connection s (statement t) .noTable

theorem search_does (schema : SearchSchema) (request : SearchRequest) (otherwise : StepResult) :
    Does connection s (s.search connection schema request)
      (some (do
        let plan ← QueryError.ofSchema (schema.plan request)
        plan.sql)) otherwise [] := by
  unfold search
  cases schema.plan request with
  | error fault => exact fails_does connection s (.schema fault) otherwise
  | ok plan =>
      obtain ⟨hresult, hhandles, hsent⟩ := send_does connection
        (s.report [.planned request.table request.keyword request.column]) plan.statement otherwise
      exact ⟨hresult, hhandles, hsent⟩

/-! ## Tables -/

theorem joinHandles_does (left right : Nat) (condition : JoinCondition) :
    Does connection s (s.joinHandles left right fun l r => l.join r condition)
      ((SessionStep.refusal? s.handles left right condition).map fun fault =>
        .error (.schema fault))
      (match TableStep.joinMade s.handles left right fun l r => l.join r condition with
        | some made => .handle made
        | none => .noTable)
      [TableStep.joinMade s.handles left right fun l r => l.join r condition] := by
  unfold joinHandles SessionStep.refusal? TableStep.joinMade table?
  -- a table may be missing, and the join of two that are there may be refused
  cases (s.handles[left]?).join with
  | none => exact ⟨rfl, rfl, (List.append_nil _).symm⟩
  | some l =>
      cases (s.handles[right]?).join with
      | none => exact ⟨rfl, rfl, (List.append_nil _).symm⟩
      | some r =>
          simp only [Option.bind_eq_bind, Option.bind_some]
          cases l.join r condition with
          | ok joined => exact ⟨rfl, rfl, (List.append_nil _).symm⟩
          | error fault => exact ⟨rfl, rfl, (List.append_nil _).symm⟩

theorem refusal?_natural (tables : List (Option TableRef)) (left right : Nat) :
    SessionStep.refusal? tables left right .natural = none := by
  unfold SessionStep.refusal?
  split <;> rfl

/-- **What a step does.** -/
theorem step_does (step : SessionStep) :
    Does connection s (s.step connection step) (step.compiled? s.handles)
      (step.handled s.handles) (step.tableStep?.map fun t => t.make s.handles).toList := by
  cases step with
  | table name => exact ⟨rfl, rfl, (List.append_nil _).symm⟩
  | naturalJoin left right =>
      have h := joinHandles_does connection s left right .natural
      rw [refusal?_natural] at h
      exact h
  | join left right condition => exact joinHandles_does connection s left right condition
  | insert i row => exact sendTo_does connection s i fun t => .insert t row
  | select i condition columns post =>
      exact sendTo_does connection s i fun t => .select t condition columns post
  | update i condition row => exact sendTo_does connection s i fun t => .update t condition row
  | delete i condition => exact sendTo_does connection s i fun t => .delete t condition
  | search schema request => exact search_does connection s schema request .noTable
  | execute sql => exact execute_does connection s sql .noTable

end Session

end DocumentSql
