import DocumentSql.Proofs.Database.Run
import DocumentSql.Proofs.Database.Watched

/-!
# The events of a session

The events that a step adds are its trail. A step with a text announces what it built, announces
that it executes the text, and says when rows come back; a log that watches the server is heard in
between. A step without a text says at most that a search was planned. The trail follows from the
tables and the number of texts before the step, so that the events of a session account for
everything the server has received.

* `Session.events_step`: a step adds its trail.
* `events_account_for_sent`: the events of a session and the texts the server has received.
-/

set_option autoImplicit false

namespace DocumentSql

/-! ## Trails -/

/-- The text in the field `sql` of an event with the given target and message. -/
def Event.sqlOf? (target message : String) (event : Event) : Option String :=
  if event.target = target ∧ event.message = message then event.fields.lookup "sql" else none

/-- What a log that watches the server says about a text that is sent when `index` others were
sent before. -/
def Connection.reported (connection : Connection) (index : Nat) (sql : String) : List Event :=
  match connection.watch with
  | some watch =>
      match watch.monitor with
      | some (.log log) => [log.event (watch.execution connection.script index sql)]
      | _ => []
  | none => []

/-- The events around a text that is sent when `index` others were sent before, and those of the
statement it was built of. -/
def Connection.trail (connection : Connection) (index : Nat) (built : Option StatementKind) :
    Option String → List Event
  | none => []
  | some sql =>
      (built.map fun kind => .built kind sql).toList ++
        .executing sql ::
          (connection.reported index sql ++ Session.finishedEvents (connection.response index))

namespace SessionStep

/-- The kind of the statement that a step builds. A text given as it is was not built. -/
def builtKind? : SessionStep → Option StatementKind
  | .insert .. => some .insert
  | .select .. | .search .. => some .select
  | .update .. => some .update
  | .delete .. => some .delete
  | .table _ | .naturalJoin .. | .join .. | .execute _ => none

/-- The event of a search that was planned. -/
def planned : SessionStep → List Event
  | .search schema request =>
      match schema.plan request with
      | .ok _ => [.planned request.table request.keyword request.column]
      | .error _ => []
  | _ => []

/-- The events of a step, after the given tables and after `index` texts were sent. -/
def trail (connection : Connection) (tables : List (Option TableRef)) (index : Nat)
    (step : SessionStep) : List Event :=
  step.planned ++ connection.trail index step.builtKind? (step.text? tables)

end SessionStep

/-! ## One step -/

namespace Session

variable (connection : Connection) (s : Session)

theorem events_receive (sql : String) :
    (s.receive connection sql).2.events =
      s.events ++ connection.reported s.sent.length sql := by
  unfold receive Connection.reported
  cases connection.watch with
  | none => simp
  | some watch =>
      -- only a log has something to say
      rcases watch with ⟨_ | _ | log, timeout⟩
      · simp [tell]
      · simp [tell]
      · rfl

theorem events_execute (sql : String) :
    (s.execute connection sql).2.events =
      s.events ++ connection.trail s.sent.length none (some sql) := by
  have hreceive := events_receive connection (s.report [.executing sql]) sql
  have hresponse := response_of_receive connection (s.report [.executing sql]) sql
  have hexecute : (s.execute connection sql).2.events =
      ((s.report [.executing sql]).receive connection sql).2.events ++
        finishedEvents ((s.report [.executing sql]).receive connection sql).1 := rfl
  rw [hexecute, hreceive, hresponse]
  simp [report, Connection.trail]

theorem events_send (statement : Statement) :
    (s.send connection statement).2.events =
      s.events ++
        connection.trail s.sent.length (some statement.kind) statement.compile.toOption := by
  cases h : statement.compile with
  | error error =>
      rw [send_of_error connection s h]
      exact (List.append_nil _).symm
  | ok sql =>
      have hbuilt : statement.events = [.built statement.kind sql] := by
        rw [Statement.events, h]
      rw [send, h, hbuilt]
      simp only [events_execute]
      simp [report, Connection.trail, Except.toOption]

theorem events_sendTo (i : Nat) {statement : TableRef → Statement} {kind : StatementKind}
    (hkind : ∀ t, (statement t).kind = kind) :
    (s.sendTo connection i statement).2.events =
      s.events ++ connection.trail s.sent.length (some kind)
        (((s.table? i).map fun t => (statement t).compile).bind Except.toOption) := by
  unfold sendTo
  cases s.table? i with
  | none => exact (List.append_nil _).symm
  | some t =>
      simp only [events_send, hkind]
      rfl

theorem events_search (schema : SearchSchema) (request : SearchRequest) :
    (s.search connection schema request).2.events =
      s.events ++ (SessionStep.search schema request).trail connection s.handles s.sent.length := by
  have htext : (SessionStep.search schema request).text? s.handles =
      (do
        let plan ← QueryError.ofSchema (schema.plan request)
        plan.sql).toOption := rfl
  rw [SessionStep.trail, htext, search, SessionStep.planned]
  cases schema.plan request with
  | error fault => exact (List.append_nil _).symm
  | ok plan =>
      simp only [events_send]
      simp only [report, List.append_assoc]
      rfl

theorem events_joinHandles (left right : Nat)
    (join : TableRef → TableRef → Except SchemaFault TableRef) :
    (s.joinHandles left right join).2.events = s.events := by
  unfold joinHandles
  split
  · next l r _ _ =>
    cases join l r <;> rfl
  · rfl

/-- **A step adds its trail** to the events. -/
theorem events_step (step : SessionStep) :
    (s.step connection step).2.events =
      s.events ++ step.trail connection s.handles s.sent.length := by
  cases step with
  | table name => exact (List.append_nil _).symm
  | naturalJoin left right =>
      rw [step, events_joinHandles]
      exact (List.append_nil _).symm
  | join left right condition =>
      rw [step, events_joinHandles, SessionStep.trail, SessionStep.text?_join]
      exact (List.append_nil _).symm
  | insert i row => exact events_sendTo connection s i fun _ => rfl
  | select i condition columns post => exact events_sendTo connection s i fun _ => rfl
  | update i condition row => exact events_sendTo connection s i fun _ => rfl
  | delete i condition => exact events_sendTo connection s i fun _ => rfl
  | search schema request => exact events_search connection s schema request
  | execute sql => exact events_execute connection s sql

end Session

/-! ## What a trail tells -/

theorem target_of_mem_planned {step : SessionStep} {e : Event} (h : e ∈ step.planned) :
    e.target = "condsql.search" := by
  unfold SessionStep.planned at h
  split at h
  · split at h
    · rw [List.mem_singleton.mp h]
      rfl
    · cases h
  · cases h

theorem target_of_mem_reported {connection : Connection} {index : Nat} {sql : String} {e : Event}
    (h : e ∈ connection.reported index sql) : e.target = "condsql.monitor" := by
  unfold Connection.reported at h
  split at h
  · split at h
    · next log _ =>
      rw [List.mem_singleton.mp h, StatementLog.event]
      -- a statement failed, was slow, or ran in time
      split
      · rfl
      · split <;> rfl
    · cases h
  · cases h

/-- Events of other targets have no text in them that is looked for. -/
theorem filterMap_sqlOf?_eq_nil {target message : String} {events : List Event}
    (h : ∀ e ∈ events, e.target ≠ target) :
    events.filterMap (Event.sqlOf? target message) = [] := by
  rw [List.filterMap_eq_nil_iff]
  intro e he
  rw [Event.sqlOf?, if_neg fun hevent => h e he hevent.1]

/-- **A trail announces the text of its step** as executed, and nothing else. -/
theorem filterMap_sqlOf?_trail (connection : Connection) (tables : List (Option TableRef))
    (index : Nat) (step : SessionStep) :
    (step.trail connection tables index).filterMap
        (Event.sqlOf? "condsql.exec" "executing SQL") = (step.text? tables).toList := by
  have hplanned : step.planned.filterMap (Event.sqlOf? "condsql.exec" "executing SQL") = [] :=
    filterMap_sqlOf?_eq_nil fun e he => by simp [target_of_mem_planned he]
  rw [SessionStep.trail, List.filterMap_append, hplanned, List.nil_append]
  cases step.text? tables with
  | none => rfl
  | some sql =>
      have hbuilt : (step.builtKind?.map fun kind => Event.built kind sql).toList.filterMap
          (Event.sqlOf? "condsql.exec" "executing SQL") = [] :=
        filterMap_sqlOf?_eq_nil (by simp [Event.target])
      have hreported : (connection.reported index sql).filterMap
          (Event.sqlOf? "condsql.exec" "executing SQL") = [] :=
        filterMap_sqlOf?_eq_nil fun e he => by simp [target_of_mem_reported he]
      have hfinished : (Session.finishedEvents (connection.response index)).filterMap
          (Event.sqlOf? "condsql.exec" "executing SQL") = [] := by
        cases connection.response index <;> rfl
      have hexecuting : Event.sqlOf? "condsql.exec" "executing SQL" (.executing sql) = some sql :=
        rfl
      rw [Connection.trail, List.filterMap_append, hbuilt, List.filterMap_cons_some hexecuting,
        List.filterMap_append, hreported, hfinished]
      rfl

/-- The event of the rows that a step returned. -/
def StepResult.finishedEvents : StepResult → List Event
  | .rows records => [.finished records.length]
  | _ => []

theorem finishedEvents_resultOf (response : Response) :
    (Session.resultOf response).finishedEvents = Session.finishedEvents response := by
  cases response <;> rfl

/-! ## All steps -/

namespace Session

variable (connection : Connection)

/-- **The texts announced as executed** are those the server has received. -/
theorem announced_run (steps : List SessionStep) :
    (run connection start steps).2.events.filterMap
        (Event.sqlOf? "condsql.exec" "executing SQL") = (run connection start steps).2.sent := by
  rw [sent_run]
  induction steps using List.reverseRecOn with
  | nil => rfl
  | append_singleton steps step ih =>
      rw [run_snoc, events_step, List.filterMap_append, ih, filterMap_sqlOf?_trail, handles_run,
        textsOf_snoc]

/-- The events that the step of a number adds. -/
theorem events_run_succ {steps : List SessionStep} {k : Nat} {step : SessionStep}
    (h : steps[k]? = some step) :
    (run connection start (steps.take (k + 1))).2.events =
      (run connection start (steps.take k)).2.events ++
        step.trail connection (tablesAfter (steps.take k)) (textsOf (steps.take k)).length := by
  have hnext : steps.take (k + 1) = steps.take k ++ [step] := by
    simp [List.take_add_one, h]
  rw [hnext, run_snoc, events_step, handles_run, sent_run]

end Session

/-- **The events of a session account for what the server has received.** The texts announced as
executed are the texts received. What a step adds to the events, if it has a text, is: that a
search was planned; that the text was built, and of which kind, unless it was given as it is; right
after it, that the text is executed; what a log says of it; and the number of rows, if the step
returned rows. A step without a text, whatever the fault, adds at most that a search was
planned. -/
theorem events_account_for_sent (connection : Connection) (steps : List SessionStep) :
    (Session.run connection Session.start steps).2.events.filterMap
          (Event.sqlOf? "condsql.exec" "executing SQL") =
        (Session.run connection Session.start steps).2.sent ∧
      ∀ (k : Nat) (step : SessionStep), steps[k]? = some step →
        ∃ trail : List Event,
          (Session.run connection Session.start (steps.take (k + 1))).2.events =
              (Session.run connection Session.start (steps.take k)).2.events ++ trail ∧
            match step.compiled? (tablesAfter (steps.take k)) with
            | some (.ok sql) =>
                ∃ planned reported finished : List Event,
                  trail = planned ++ (step.builtKind?.map fun kind => .built kind sql).toList ++
                      .executing sql :: (reported ++ finished) ∧
                    (∀ e ∈ planned, e.target = "condsql.search") ∧
                    (∀ e ∈ reported, e.target = "condsql.monitor") ∧
                    ∃ result : StepResult,
                      (Session.run connection Session.start steps).1[k]? = some result ∧
                        finished = result.finishedEvents
            | _ => ∀ e ∈ trail, e.target = "condsql.search" := by
  refine ⟨Session.announced_run connection steps, ?_⟩
  intro k step hstep
  refine ⟨_, Session.events_run_succ connection hstep, ?_⟩
  have hplanned : ∀ e ∈ step.planned, e.target = "condsql.search" :=
    fun e he => target_of_mem_planned he
  split
  · next sql hcompiled =>
    have htext := SessionStep.text?_eq_some_iff.mpr hcompiled
    have hat : textAt? steps k = some sql := by
      rw [textAt?, hstep, Option.bind_some, htext]
    refine ⟨step.planned, connection.reported (textsOf (steps.take k)).length sql, _, ?_, hplanned,
      fun e he => target_of_mem_reported he, _, Session.result_of_textAt? connection hat, rfl⟩
    rw [SessionStep.trail, htext, Connection.trail, finishedEvents_resultOf, List.append_assoc]
  · next hcompiled =>
    have htext : step.text? (tablesAfter (steps.take k)) = none := by
      rw [Option.eq_none_iff_forall_ne_some]
      intro sql htext
      exact hcompiled sql (SessionStep.text?_eq_some_iff.mp htext)
    rw [SessionStep.trail, htext, Connection.trail, List.append_nil]
    exact hplanned

/-- A search on a server that a log watches, with one row in the answer. -/
theorem events_account_for_sent_logged :
    let connection : Connection := ⟨⟨[⟨⟨0⟩, .ok [.empty]⟩]⟩, some ⟨some (.log .default), none⟩⟩
    let search : SessionStep := .search .petShop ⟨"x", "Review", some "content", none⟩
    let sql := "SELECT `rating`, `review_date`, `content`, `customer_email`, `pet_shop_name` " ++
      "FROM `Review` WHERE `content` LIKE \"%x%\""
    [search][0]? = some search ∧
      ∃ trail : List Event,
        (Session.run connection Session.start [search]).2.events = [] ++ trail ∧
          ∃ planned reported finished : List Event,
            trail = planned ++ [.built .select sql] ++ .executing sql :: (reported ++ finished) ∧
              (∀ e ∈ planned, e.target = "condsql.search") ∧
              (∀ e ∈ reported, e.target = "condsql.monitor") ∧
              ∃ result : StepResult,
                some (StepResult.rows [.empty]) = some result ∧
                  finished = result.finishedEvents := by
  intro connection search sql
  exact ⟨rfl, (events_account_for_sent connection [search]).2 0 search rfl⟩

end DocumentSql
