import DocumentSql.Database.Server
import DocumentSql.Search.Plan

/-!
# Sessions

A session makes table handles, which later steps name by their number, and sends statements to
the server. Each step gives a result. What the server has received, the statistics and the
events are kept as they come.
-/

set_option autoImplicit false

namespace DocumentSql

/-- One step of a session. Tables are named by the number of the step, among those that make
handles, which made them. -/
inductive SessionStep where
  /-- A handle of a table. -/
  | table (name : String)
  /-- A handle of a natural join. -/
  | naturalJoin (left right : Nat)
  /-- A handle of a join. -/
  | join (left right : Nat) (condition : JoinCondition)
  | insert (table : Nat) (row : Row)
  | select (table : Nat) (condition : Condition) (columns : List String) (post : PostProcess)
  | update (table : Nat) (condition : Condition) (row : Row)
  | delete (table : Nat) (condition : Condition)
  /-- A search. -/
  | search (schema : SearchSchema) (request : SearchRequest)
  /-- A statement in its final text. -/
  | execute (sql : String)

/-- The result of a step. -/
inductive StepResult where
  /-- A new handle. -/
  | handle (table : TableRef)
  /-- Rows from the server. -/
  | rows (records : List Record)
  /-- The step failed. -/
  | error (error : QueryError)
  /-- A table that the step names was not made. -/
  | noTable

/-- The state of a session. -/
structure Session where
  /-- The tables that were made, in order; none where making one failed. -/
  handles : List (Option TableRef)
  /-- The statements the server has received, in order. -/
  sent : List String
  /-- The statistics of the connection. -/
  statistics : Statistics
  /-- The events so far, in order. -/
  events : List Event

namespace Session

/-- The state before the first step. -/
def start : Session := ⟨[], [], Statistics.zero, []⟩

/-- The table of a number, if it was made. -/
def table? (s : Session) (index : Nat) : Option TableRef := (s.handles[index]?).join

/-- The session with more events. -/
def report (s : Session) (events : List Event) : Session :=
  { s with events := s.events ++ events }

/-- The session with a new handle. -/
def addHandle (s : Session) : Except SchemaFault TableRef → StepResult × Session
  | .ok table => (.handle table, { s with handles := s.handles ++ [some table] })
  | .error fault =>
      (.error (.schema fault), { s with handles := s.handles ++ [none] })

/-- The session after a monitor was told about an execution. -/
def tell (s : Session) (e : Execution) : Option Monitor → Session
  | none => s
  | some .statistics => { s with statistics := s.statistics.record e }
  | some (.log log) => s.report [log.event e]

/-- A statement received by the server: its response, and the session after it. -/
def receive (connection : Connection) (s : Session) (sql : String) : Response × Session :=
  let reply := connection.script.reply s.sent.length
  let s := { s with sent := s.sent ++ [sql] }
  match connection.watch with
  | none => (reply.response, s)
  | some watch =>
      let reply := watch.limit reply
      (reply.response, s.tell (Execution.ofReply sql reply) watch.monitor)

/-- The event of rows that came back. -/
def finishedEvents : Response → List Event
  | .ok rows => [.finished rows.length]
  | .error _ => []

/-- The result of a step that sent a statement. -/
def resultOf : Response → StepResult
  | .ok rows => .rows rows
  | .error error => .error error

/-- A text is sent to the server. -/
def execute (connection : Connection) (s : Session) (sql : String) : StepResult × Session :=
  let s := s.report [.executing sql]
  let (response, s) := s.receive connection sql
  (resultOf response, s.report (finishedEvents response))

/-- A statement is built and, if that succeeds, sent. -/
def send (connection : Connection) (s : Session) (statement : Statement) :
    StepResult × Session :=
  match statement.compile with
  | .error error => (.error error, s)
  | .ok sql => (s.report statement.events).execute connection sql

/-- The statement on a table that was made is sent. -/
def sendTo (connection : Connection) (s : Session) (index : Nat)
    (statement : TableRef → Statement) : StepResult × Session :=
  match s.table? index with
  | none => (.noTable, s)
  | some table => s.send connection (statement table)

/-- A search is planned and, if that succeeds, sent. -/
def search (connection : Connection) (s : Session) (schema : SearchSchema)
    (request : SearchRequest) : StepResult × Session :=
  match schema.plan request with
  | .error fault => (.error (.schema fault), s)
  | .ok plan =>
      (s.report [.planned request.table request.keyword request.column]).send connection
        plan.statement

/-- A handle of a join of two tables that were made. -/
def joinHandles (s : Session) (left right : Nat)
    (join : TableRef → TableRef → Except SchemaFault TableRef) : StepResult × Session :=
  match s.table? left, s.table? right with
  | some l, some r => s.addHandle (join l r)
  | _, _ => (.noTable, { s with handles := s.handles ++ [none] })

/-- The result of a step, and the session after it. -/
def step (connection : Connection) (s : Session) : SessionStep → StepResult × Session
  | .table name => s.addHandle (.ok (.plain name))
  | .naturalJoin left right => s.joinHandles left right fun l r => l.join r .natural
  | .join left right condition => s.joinHandles left right fun l r => l.join r condition
  | .insert table row => s.sendTo connection table fun t => .insert t row
  | .select table condition columns post =>
      s.sendTo connection table fun t => .select t condition columns post
  | .update table condition row => s.sendTo connection table fun t => .update t condition row
  | .delete table condition => s.sendTo connection table fun t => .delete t condition
  | .search schema request => s.search connection schema request
  | .execute sql => s.execute connection sql

/-- The results of steps, one after the other, and the session after them. -/
def run (connection : Connection) : Session → List SessionStep → List StepResult × Session
  | s, [] => ([], s)
  | s, next :: rest =>
      let (result, s) := s.step connection next
      let (results, s) := run connection s rest
      (result :: results, s)

end Session

end DocumentSql
