import DocumentSql.CommandLine.Run
import DocumentSql.Proofs.CommandLine.Items
import DocumentSql.Proofs.Statement.Guard

/-!
# What a command line prints

A command line that prints something asked for help, or its items give the options of a command
that does. What that command has found in its options is said here for each of the four
statements: the documents have been read, and a table that is written to is not a join.
-/

set_option autoImplicit false

namespace DocumentSql.CommandLine

/-! ## Results -/

theorem ofQuery_eq_ok_iff {α : Type} {x : Except QueryError α} {a : α} :
    ofQuery x = .ok a ↔ x = .ok a := by
  cases x <;> simp [ofQuery]

theorem ofSchema_eq_ok_iff {α : Type} {x : Except SchemaFault α} {a : α} :
    ofSchema x = .ok a ↔ x = .ok a := by
  cases x <;> simp [ofSchema]

theorem ofQuery_eq_error_iff {α : Type} {x : Except QueryError α} {error : QueryError} :
    ofQuery x = .error (.query error) ↔ x = .error error := by
  cases x <;> simp [ofQuery]

theorem ofSchema_eq_error_iff {α : Type} {x : Except SchemaFault α} {fault : SchemaFault} :
    ofSchema x = .error (.query (.schema fault)) ↔ x = .error fault := by
  cases x <;> simp [ofSchema]

theorem documentOf_eq_ok_iff {flag : Flag} {text : String} {v : Json} :
    documentOf flag text = .ok v ↔ Json.read text = .ok v := by
  unfold documentOf
  cases Json.read text <;> simp

/-- A condition is given by a document. -/
theorem conditionOf_some_eq_ok_iff {text : String} {c : Condition} :
    conditionOf (some text) = .ok c ↔ ∃ v, Json.read text = .ok v ∧ Condition.ofJson v = .ok c := by
  rw [conditionOf, bind_eq_ok_iff]
  simp only [documentOf_eq_ok_iff, ofSchema_eq_ok_iff]

theorem printStatement_eq_ok {statement : Statement} {printed : Printed}
    (h : printStatement statement = .ok printed) : statement.compile = .ok printed.text := by
  obtain ⟨sql, hsql, h⟩ := bind_eq_ok_iff.mp h
  cases h
  exact ofQuery_eq_ok_iff.mp hsql

/-! ## Command lines -/

theorem optionsOf_eq_ok {arguments : List String} {o : Options} (h : optionsOf arguments = .ok o) :
    ∃ items, itemsOf arguments = .ok items ∧ Options.empty.addItems items = .ok o := by
  unfold optionsOf at h
  split at h
  · next o' ho =>
      cases h
      exact (readOptions_eq_ok_iff ..).mp ho
  · cases h

/-- What is printed is help, or comes from a command with the options of the items. -/
theorem run_eq_ok {files : Files} {topic : Topic} (htopic : topic ≠ .program)
    {arguments : List String} {printed : Printed}
    (h : run files (topic.name :: arguments) = .ok printed) :
    ∃ items o, itemsOf arguments = .ok items ∧ Options.empty.addItems items = .ok o ∧
      ((Item.help ∈ items ∧ printed = ⟨topic.help, []⟩) ∨
        ∃ command, o.command topic = .ok command ∧ command.run files = .ok printed) := by
  rw [run, readCommand_name htopic] at h
  cases hcommand : topic.command arguments with
  | error fault =>
      rw [hcommand] at h
      cases h
  | ok command =>
      rw [hcommand] at h
      obtain ⟨o, ho, hcommand⟩ := bind_eq_ok_iff.mp hcommand
      obtain ⟨items, hitems, hadd⟩ := optionsOf_eq_ok ho
      refine ⟨items, o, hitems, hadd, ?_⟩
      -- help comes before the check of what the command allows
      by_cases hhelp : o.help
      · left
        rw [if_pos hhelp] at hcommand
        cases hcommand
        cases h
        have hitem := (Options.help_of_addItems hadd).mp hhelp
        exact ⟨hitem.resolve_left (by simp [Options.empty]), rfl⟩
      · right
        rw [if_neg hhelp] at hcommand
        split at hcommand
        · cases hcommand
        · exact ⟨command, hcommand, h⟩

/-! ## Tables -/

theorem length_of_completeJoins {joins : List (String × Option JoinSpec)}
    {specs : List (String × JoinSpec)} (h : Options.completeJoins joins = .ok specs) :
    specs.length = joins.length := by
  induction joins generalizing specs with
  | nil =>
      cases h
      rfl
  | cons join joins ih =>
      obtain ⟨table, spec?⟩ := join
      cases spec? with
      | none => cases h
      | some spec =>
          obtain ⟨rest, hrest, h⟩ := bind_eq_ok_iff.mp h
          cases h
          rw [List.length_cons, List.length_cons, ih hrest]

theorem target_eq_ok {o : Options} {target : Target} (h : o.target = .ok target) :
    o.table = some target.table ∧ target.joins.length = o.joins.length := by
  unfold Options.target at h
  split at h
  · cases h
  · next table htable =>
      obtain ⟨joins, hjoins, h⟩ := bind_eq_ok_iff.mp h
      cases h
      exact ⟨htable, length_of_completeJoins hjoins⟩

/-- A table with others joined to it is a join. -/
theorem isJoined_of_joinAll {table joined : TableRef} {joins : List (String × JoinSpec)}
    (h : joinAll table joins = .ok joined) :
    joined.isJoined = true ∨ (joins = [] ∧ joined = table) := by
  induction joins generalizing table with
  | nil =>
      cases h
      exact .inr ⟨rfl, rfl⟩
  | cons join joins ih =>
      obtain ⟨condition, -, h⟩ := bind_eq_ok_iff.mp h
      left
      -- the first join makes a join, and those after it keep it one
      split at h
      · next t ht =>
          rcases ih h with hjoined | ⟨-, rfl⟩
          · exact hjoined
          · exact TableRef.isJoined_of_join ht
      · cases h

/-- A table that is no join is the one that was named, and none was joined to it. -/
theorem plain_of_target {o : Options} {target : Target} {table : TableRef}
    (htarget : o.target = .ok target) (htable : tableOf target = .ok table)
    (hplain : table.isJoined = false) :
    o.table = some target.table ∧ o.joins = [] ∧ table = .plain target.table := by
  obtain ⟨hname, hlength⟩ := target_eq_ok htarget
  rcases isJoined_of_joinAll htable with hjoined | ⟨hnone, heq⟩
  · rw [hplain] at hjoined
    cases hjoined
  · rw [hnone] at hlength
    exact ⟨hname, List.eq_nil_of_length_eq_zero hlength.symm, heq⟩

/-! ## Statements that read -/

/-- A printed SELECT. -/
theorem select_printed {files : Files} {o : Options} {command : Command} {printed : Printed}
    (hcommand : o.command .select = .ok command) (h : command.run files = .ok printed) :
    ∃ table c columns post, conditionOf o.condition = .ok c ∧
      (Statement.select table c columns post).compile = .ok printed.text := by
  obtain ⟨target, -, hcommand⟩ := bind_eq_ok_iff.mp hcommand
  cases hcommand
  obtain ⟨post, -, h⟩ := bind_eq_ok_iff.mp h
  obtain ⟨table, -, h⟩ := bind_eq_ok_iff.mp h
  obtain ⟨c, hc, h⟩ := bind_eq_ok_iff.mp h
  exact ⟨table, c, o.columns, post, hc, printStatement_eq_ok h⟩

/-! ## Statements that write -/

/-- A printed INSERT. -/
theorem insert_printed {files : Files} {o : Options} {command : Command} {printed : Printed}
    (hcommand : o.command .insert = .ok command) (h : command.run files = .ok printed) :
    ∃ table text row, o.table = some table ∧ o.joins = [] ∧ o.row = some text ∧
      rowOf .row text = .ok row ∧
      (Statement.insert (.plain table) row).compile = .ok printed.text := by
  obtain ⟨target, htarget, hcommand⟩ := bind_eq_ok_iff.mp hcommand
  split at hcommand
  · cases hcommand
  · next text htext =>
      cases hcommand
      obtain ⟨table, htable, h⟩ := bind_eq_ok_iff.mp h
      obtain ⟨row, hrow, h⟩ := bind_eq_ok_iff.mp h
      have hsql := printStatement_eq_ok h
      obtain ⟨hplain, -⟩ := Statement.insertSql_eq_ok hsql
      obtain ⟨hname, hjoins, rfl⟩ := plain_of_target htarget htable hplain
      exact ⟨target.table, text, row, hname, hjoins, htext, hrow, hsql⟩

/-- A printed UPDATE. -/
theorem update_printed {files : Files} {o : Options} {command : Command} {printed : Printed}
    (hcommand : o.command .update = .ok command) (h : command.run files = .ok printed) :
    ∃ table c text row, o.table = some table ∧ o.joins = [] ∧ conditionOf o.condition = .ok c ∧
      o.assignments = some text ∧ rowOf .assignments text = .ok row ∧
      (Statement.update (.plain table) c row).compile = .ok printed.text := by
  obtain ⟨target, htarget, hcommand⟩ := bind_eq_ok_iff.mp hcommand
  split at hcommand
  · cases hcommand
  · next text htext =>
      cases hcommand
      obtain ⟨table, htable, h⟩ := bind_eq_ok_iff.mp h
      obtain ⟨c, hc, h⟩ := bind_eq_ok_iff.mp h
      obtain ⟨row, hrow, h⟩ := bind_eq_ok_iff.mp h
      have hsql := printStatement_eq_ok h
      obtain ⟨hplain, -⟩ := Statement.updateSql_eq_ok hsql
      obtain ⟨hname, hjoins, rfl⟩ := plain_of_target htarget htable hplain
      exact ⟨target.table, c, text, row, hname, hjoins, hc, htext, hrow, hsql⟩

/-- A printed DELETE. -/
theorem delete_printed {files : Files} {o : Options} {command : Command} {printed : Printed}
    (hcommand : o.command .delete = .ok command) (h : command.run files = .ok printed) :
    ∃ table c, o.table = some table ∧ o.joins = [] ∧ conditionOf o.condition = .ok c ∧
      (Statement.delete (.plain table) c).compile = .ok printed.text := by
  obtain ⟨target, htarget, hcommand⟩ := bind_eq_ok_iff.mp hcommand
  cases hcommand
  obtain ⟨table, htable, h⟩ := bind_eq_ok_iff.mp h
  obtain ⟨c, hc, h⟩ := bind_eq_ok_iff.mp h
  have hsql := printStatement_eq_ok h
  obtain ⟨hplain, -⟩ := Statement.deleteSql_eq_ok hsql
  obtain ⟨hname, hjoins, rfl⟩ := plain_of_target htarget htable hplain
  exact ⟨target.table, c, hname, hjoins, hc, hsql⟩

end DocumentSql.CommandLine
