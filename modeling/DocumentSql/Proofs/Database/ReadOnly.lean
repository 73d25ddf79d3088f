import DocumentSql.Proofs.CommandLine.Printing
import DocumentSql.Proofs.Database.Run

/-!
# Joins are never written to

A table that was made by joining others is a join, whatever it was made of. A session leaves such
a table alone: a step that would write to it is refused, and the session goes on as if the step
had not been there. A command line that names a table to join prints no statement that writes.

* `joins_are_read_only`: for tables, sessions and command lines.
-/

set_option autoImplicit false

namespace DocumentSql

/-- The number of the table that the step writes to. -/
def SessionStep.written? : SessionStep → Option Nat
  | .insert i _ | .update i _ _ | .delete i _ => some i
  | _ => none

namespace Session

theorem sendTo_of_error (connection : Connection) {s : Session} {i : Nat} {t : TableRef}
    {statement : TableRef → Statement} {error : QueryError} (ht : s.table? i = some t)
    (h : (statement t).compile = .error error) :
    s.sendTo connection i statement = (.error error, s) := by
  rw [sendTo, ht]
  exact send_of_error connection s h

/-- A write to a join is refused and changes nothing. -/
theorem step_of_isJoined (connection : Connection) {s : Session} {step : SessionStep} {i : Nat}
    {t : TableRef} (hstep : step.written? = some i) (ht : s.table? i = some t)
    (hjoined : t.isJoined = true) :
    ∃ verb, s.step connection step = (.error (.writeGuard (.joinedTable verb t.name)), s) := by
  cases step with
  | insert j row =>
      cases hstep
      exact ⟨_, sendTo_of_error connection ht (Statement.insertSql_of_isJoined hjoined row)⟩
  | update j condition row =>
      cases hstep
      exact ⟨_, sendTo_of_error connection ht
        (Statement.updateSql_of_isJoined hjoined condition row)⟩
  | delete j condition =>
      cases hstep
      exact ⟨_, sendTo_of_error connection ht (Statement.deleteSql_of_isJoined hjoined condition)⟩
  | _ => cases hstep

/-- A step that changes nothing might as well not be there. -/
theorem run_of_step_eq (connection : Connection) {s : Session} {before : List SessionStep}
    {step : SessionStep} {result : StepResult}
    (h : (run connection s before).2.step connection step =
      (result, (run connection s before).2)) (after : List SessionStep) :
    (run connection s (before ++ step :: after)).1[before.length]? = some result ∧
      (run connection s (before ++ step :: after)).2 = (run connection s (before ++ after)).2 := by
  rw [run_append, run_append, run, h]
  refine ⟨?_, rfl⟩
  have hlength := length_run connection s before
  rw [List.getElem?_append_right (Nat.le_of_eq hlength), hlength, Nat.sub_self]
  rfl

/-- The tables of a session that are joins were made by a step that joins. -/
theorem isJoined_of_table? {connection : Connection} {steps : List SessionStep} {i : Nat}
    {t : TableRef} (h : (run connection start steps).2.table? i = some t) :
    ∃ made, (steps.filterMap SessionStep.tableStep?)[i]? = some made ∧
      t.isJoined = made.isJoin := by
  rw [table?, handles_run, Option.join_eq_some_iff] at h
  exact TableStep.isJoined_of_makeAll h

end Session

namespace CommandLine

/-- A printed statement that writes has no table joined. -/
theorem joins_eq_nil_of_printed {files : Files} {topic : Topic}
    (htopic : topic = .insert ∨ topic = .update ∨ topic = .delete) {o : Options}
    {command : Command} {printed : Printed} (hcommand : o.command topic = .ok command)
    (h : command.run files = .ok printed) : o.joins = [] := by
  rcases htopic with rfl | rfl | rfl
  · obtain ⟨table, text, row, -, hjoins, -⟩ := insert_printed hcommand h
    exact hjoins
  · obtain ⟨table, c, text, row, -, hjoins, -⟩ := update_printed hcommand h
    exact hjoins
  · obtain ⟨table, c, -, hjoins, -⟩ := delete_printed hcommand h
    exact hjoins

/-- **A command line that writes** prints help, or it joins no table. -/
theorem no_join_of_printed {files : Files} {topic : Topic}
    (htopic : topic = .insert ∨ topic = .update ∨ topic = .delete) {arguments : List String}
    {printed : Printed} (h : run files (topic.name :: arguments) = .ok printed) :
    ∃ items, itemsOf arguments = .ok items ∧
      ((Item.help ∈ items ∧ printed = ⟨topic.help, []⟩) ∨
        ∀ table, Item.option .join table ∉ items) := by
  have hprogram : topic ≠ .program := by rcases htopic with rfl | rfl | rfl <;> decide
  obtain ⟨items, o, hitems, hadd, hcase⟩ := run_eq_ok hprogram h
  refine ⟨items, hitems, hcase.imp_right ?_⟩
  rintro ⟨command, hcommand, hrun⟩ table hitem
  have hjoins := Options.joins_of_addItems hadd
  rw [joins_eq_nil_of_printed htopic hcommand hrun] at hjoins
  have hvalues : valuesOf .join items = [] := hjoins.symm
  have hmem := mem_valuesOf.mpr hitem
  rw [hvalues] at hmem
  cases hmem

end CommandLine

open CommandLine

/-- **Joins are read-only.** A table is a join exactly when the step that made it joins, and then
every write to it is refused, whatever the row and the condition are. In a session the refused step
leaves no trace, and a command line that joins a table prints no statement that writes. -/
theorem joins_are_read_only :
    (∀ (steps : List TableStep) (i : Nat) (t : TableRef),
      (TableStep.makeAll steps)[i]? = some (some t) →
      ∃ step, steps[i]? = some step ∧ (t.isJoined = true ↔ step.isJoin = true) ∧
        (t.isJoined = true →
          (∀ row, Statement.insertSql t row =
            .error (.writeGuard (.joinedTable "insert into" t.name))) ∧
          (∀ c row, Statement.updateSql t c row =
            .error (.writeGuard (.joinedTable "update" t.name))) ∧
          ∀ c, Statement.deleteSql t c =
            .error (.writeGuard (.joinedTable "delete from" t.name)))) ∧
    (∀ (connection : Connection) (before after : List SessionStep) (step : SessionStep) (i : Nat)
      (t : TableRef) (made : TableStep),
      step.written? = some i →
      (Session.run connection .start before).2.table? i = some t →
      (before.filterMap SessionStep.tableStep?)[i]? = some made → made.isJoin = true →
      (∃ verb, (Session.run connection .start (before ++ step :: after)).1[before.length]? =
        some (.error (.writeGuard (.joinedTable verb t.name)))) ∧
      (Session.run connection .start (before ++ step :: after)).2 =
        (Session.run connection .start (before ++ after)).2) ∧
    ∀ (files : Files) (topic : Topic) (arguments : List String) (printed : Printed),
      topic = .insert ∨ topic = .update ∨ topic = .delete →
      run files (topic.name :: arguments) = .ok printed →
      ∃ items, itemsOf arguments = .ok items ∧
        ((Item.help ∈ items ∧ printed = ⟨topic.help, []⟩) ∨
          ∀ table, Item.option .join table ∉ items) := by
  refine ⟨?_, ?_, fun files topic arguments printed htopic h => no_join_of_printed htopic h⟩
  · intro steps i t h
    obtain ⟨step, hstep, hjoined⟩ := TableStep.isJoined_of_makeAll h
    refine ⟨step, hstep, by rw [hjoined], ?_⟩
    intro hjoin
    exact ⟨Statement.insertSql_of_isJoined hjoin, Statement.updateSql_of_isJoined hjoin,
      Statement.deleteSql_of_isJoined hjoin⟩
  · intro connection before after step i t made hstep ht hmade hjoin
    -- the table of a number was made by the step of that number
    obtain ⟨made', hmade', hjoined⟩ := Session.isJoined_of_table? ht
    have hsame : made' = made := Option.some.inj (hmade'.symm.trans hmade)
    rw [hsame, hjoin] at hjoined
    obtain ⟨verb, hrefused⟩ := Session.step_of_isJoined connection hstep ht hjoined
    obtain ⟨hresult, hrest⟩ := Session.run_of_step_eq connection hrefused after
    exact ⟨⟨verb, hresult⟩, hrest⟩

/-- A join by column names, a session that would delete from it, and a command line without a
join. -/
theorem joins_are_read_only_natural :
    Statement.insertSql (.natural (.plain "a") (.plain "b")) Row.empty =
        .error (.writeGuard (.joinedTable "insert into"
          (TableRef.natural (.plain "a") (.plain "b")).name)) ∧
      (Session.run ⟨⟨[]⟩, none⟩ .start
        [.table "a", .table "b", .naturalJoin 0 1, .delete 2 .empty, .execute "x"]).2.sent =
          ["x"] ∧
      ∃ items printed, run (fun _ => .error .missing) ["delete", "--table", "t"] = .ok printed ∧
        itemsOf ["--table", "t"] = .ok items ∧ ∀ table, Item.option .join table ∉ items := by
  obtain ⟨htables, hsession, hline⟩ := joins_are_read_only
  refine ⟨?_, ?_, ?_⟩
  · obtain ⟨step, -, -, hrefused⟩ :=
      htables [.plain "a", .plain "b", .natural 0 1] 2 (.natural (.plain "a") (.plain "b")) rfl
    exact (hrefused rfl).1 Row.empty
  · obtain ⟨-, hsame⟩ := hsession ⟨⟨[]⟩, none⟩ [.table "a", .table "b", .naturalJoin 0 1]
      [.execute "x"] (.delete 2 .empty) 2 _ (.natural 0 1) rfl rfl rfl rfl
    exact congrArg Session.sent hsame
  · obtain ⟨items, hitems, hcase⟩ :=
      hline (fun _ => .error .missing) .delete ["--table", "t"] _ (.inr (.inr rfl)) rfl
    refine ⟨items, _, rfl, hitems, ?_⟩
    rcases hcase with ⟨hhelp, -⟩ | hnone
    · cases hitems
      exact absurd hhelp (by decide)
    · exact hnone

end DocumentSql
