import DocumentSql.Monitor.Log
import DocumentSql.Monitor.Statistics
import DocumentSql.Row

/-!
# Servers

A server answers the statements it receives, one after the other, by a script of replies: the
first statement gets the first reply, and statements beyond the script get its last. A
connection may watch the server: it limits the time of a statement, and it tells a monitor about
every statement that has run.
-/

set_option autoImplicit false

namespace DocumentSql

/-- What a server returns for a statement. -/
abbrev Response := Except QueryError (List Record)

/-- The answer to one statement, and the time until it comes. -/
structure Reply where
  /-- The time until the answer comes. -/
  delay : Duration
  /-- The answer. -/
  response : Response

/-- An answer at once, without rows. -/
def Reply.none : Reply := ⟨⟨0⟩, .ok []⟩

/-- The answers of a server, in order. -/
structure Script where
  /-- The replies; the last one is repeated. -/
  replies : List Reply

/-- The reply to the statement that `index` others came before. -/
def Script.reply (script : Script) (index : Nat) : Reply :=
  match script.replies[index]? with
  | some reply => reply
  | none => script.replies.getLast?.getD Reply.none

/-- Who is told about the statements that have run. -/
inductive Monitor where
  /-- The statistics. -/
  | statistics
  /-- A log. -/
  | log (log : StatementLog)

/-- How a connection watches the server. -/
structure Watch where
  /-- Who is told. -/
  monitor : Option Monitor
  /-- How long a statement may take. -/
  timeout : Option Duration

/-- A server and how it is watched, if it is. -/
structure Connection where
  /-- The answers of the server. -/
  script : Script
  /-- How it is watched. -/
  watch : Option Watch

namespace Watch

/-- A reply that comes too late is replaced by a timeout. A reply at the limit is in time. This is
the documented behaviour of tokio's `timeout`: the value of a future that completes before the
limit has elapsed is returned, and it is looked for before the limit is; otherwise the future is
cancelled and the limit reported. -/
def limit (watch : Watch) (reply : Reply) : Reply :=
  match watch.timeout with
  | some limit =>
      if limit.nanos < reply.delay.nanos then ⟨limit, .error (.timeout limit)⟩ else reply
  | none => reply

variable {watch : Watch} {reply : Reply}

/-- A reply in time is returned as it is. -/
theorem limit_of_in_time (h : ∀ limit ∈ watch.timeout, reply.delay.nanos ≤ limit.nanos) :
    watch.limit reply = reply := by
  unfold limit
  cases htimeout : watch.timeout with
  | none => rfl
  | some limit => exact if_neg (Nat.not_lt.mpr (h limit htimeout))

/-- A reply that comes too late is not returned. -/
theorem limit_of_too_late {limit : Duration} (htimeout : watch.timeout = some limit)
    (h : limit.nanos < reply.delay.nanos) :
    watch.limit reply = ⟨limit, .error (.timeout limit)⟩ := by
  rw [Watch.limit, htimeout]
  exact if_pos h

end Watch

/-- How a response counts. -/
def Outcome.ofResponse : Response → Outcome
  | .ok records => .rows records.length
  | .error error => .failed error

/-- What a monitor is told about a statement with its reply. -/
def Execution.ofReply (sql : String) (reply : Reply) : Execution :=
  { sql := sql
    kind := StatementKind.ofSql sql
    elapsed := reply.delay
    outcome := Outcome.ofResponse reply.response }

end DocumentSql
