import DocumentSql.Proofs.CommandLine.Printing
import DocumentSql.Proofs.Json.EmptyObject
import DocumentSql.Proofs.Statement.Change

/-!
# Changes that a command line asks for

The options of `update` and `delete` name a change of rows, and the last `--where` its condition.
What is printed is the statement of that change under that condition. From the tree of a condition
over the documents to the command line, a statement that changes all rows comes from nothing but a
condition that says so.

* `CommandLine.change_printed`: what `update` and `delete` print.
* `unfiltered_iff`: when a statement changes all rows.
-/

set_option autoImplicit false

namespace DocumentSql

namespace CommandLine

/-- The change that the options of a command ask for. -/
inductive AsksFor (items : List Item) : Topic → Change → Prop where
  | delete {table : String} (htable : lastValue? .table items = some table) :
      AsksFor items .delete (.delete table)
  | update {table text : String} {row : Row} (htable : lastValue? .table items = some table)
      (htext : lastValue? .assignments items = some text) (hrow : rowOf .assignments text = .ok row)
      (hne : row.entries ≠ []) : AsksFor items .update (.update table row hne)

theorem text?_of_items {items : List Item} {o : Options}
    (h : Options.empty.addItems items = .ok o) {flag : Flag} (hflag : flag.keepsText) :
    o.text? flag = lastValue? flag items := by
  have hempty : Options.empty.text? flag = none := by cases flag <;> rfl
  rw [Options.text?_of_addItems h hflag, hempty, Option.or_none]

/-- **What is printed** is help, or the statement of the change that is asked for. -/
theorem change_printed {files : Files} {topic : Topic} (htopic : topic = .update ∨ topic = .delete)
    {arguments : List String} {printed : Printed}
    (h : run files (topic.name :: arguments) = .ok printed) :
    ∃ items, itemsOf arguments = .ok items ∧
      ((Item.help ∈ items ∧ printed = ⟨topic.help, []⟩) ∨
        ∃ change c, AsksFor items topic change ∧
          conditionOf (lastValue? .condition items) = .ok c ∧
          (change.statement c).compile = .ok printed.text) := by
  have hprogram : topic ≠ .program := by rcases htopic with rfl | rfl <;> decide
  obtain ⟨items, o, hitems, hadd, hcase⟩ := run_eq_ok hprogram h
  refine ⟨items, hitems, hcase.imp_right ?_⟩
  rintro ⟨command, hcommand, hrun⟩
  have htext {flag : Flag} (hflag : flag.keepsText) : lastValue? flag items = o.text? flag :=
    (text?_of_items hadd hflag).symm
  rcases htopic with rfl | rfl
  · obtain ⟨table, c, text, row, htable, -, hc, hassign, hrow, hsql⟩ :=
      update_printed hcommand hrun
    -- an UPDATE has a text only where it assigns something
    have hne : row.entries ≠ [] := (Statement.updateSql_eq_ok hsql).2.1
    refine ⟨.update table row hne, c, .update ?_ ?_ hrow hne, ?_, hsql⟩
    · rw [htext rfl]
      exact htable
    · rw [htext rfl]
      exact hassign
    · rw [htext rfl]
      exact hc
  · obtain ⟨table, c, htable, -, hc, hsql⟩ := delete_printed hcommand hrun
    refine ⟨.delete table, c, .delete ?_, ?_, hsql⟩
    · rw [htext rfl]
      exact htable
    · rw [htext rfl]
      exact hc

end CommandLine

open CommandLine

/-- **All rows are changed** exactly by a condition that constrains nothing: as a tree, as a
document, and as the text that a command line gives. Any other condition is what the statement
says behind WHERE, with all its comparisons in their order, or there is no statement. -/
theorem unfiltered_iff (files : Files) :
    (∀ (change : Change) (c : Condition),
      ((change.statement c).compile = .ok change.head ↔ c.IsVacuous) ∧
      (¬ c.IsVacuous →
        (∃ body, body ≠ "" ∧
          (change.statement c).compile = .ok (change.head ++ " WHERE " ++ body) ∧
          c.leaves ≠ [] ∧ c.IsSaidBy body) ∨
        ∃ fault, (change.statement c).compile = .error (.schema fault))) ∧
    (∀ (change : Change) (v : Json) (c : Condition), Condition.ofJson v = .ok c →
      ((change.statement c).compile = .ok change.head ↔ v = .object [])) ∧
    ∀ (topic : Topic) (arguments : List String) (printed : Printed),
      topic = .update ∨ topic = .delete →
      run files (topic.name :: arguments) = .ok printed →
      ∃ items, itemsOf arguments = .ok items ∧
        ((Item.help ∈ items ∧ printed = ⟨topic.help, []⟩) ∨
          ∃ change c, AsksFor items topic change ∧
            (change.statement c).compile = .ok printed.text ∧
            ∀ text, lastValue? .condition items = some text →
              conditionOf (some text) = .ok c ∧
              (printed.text = change.head ↔ Json.IsEmptyObject text)) := by
  refine ⟨fun change c => ⟨change.compile_eq_head_iff c, change.compile_of_not_isVacuous⟩, ?_, ?_⟩
  · intro change v c h
    rw [change.compile_eq_head_iff, Condition.isVacuous_iff_of_ofJson h]
  · intro topic arguments printed htopic h
    obtain ⟨items, hitems, hcase⟩ := change_printed htopic h
    refine ⟨items, hitems, hcase.imp_right ?_⟩
    rintro ⟨change, c, hasks, hc, hsql⟩
    refine ⟨change, c, hasks, hsql, ?_⟩
    intro text htext
    rw [htext] at hc
    obtain ⟨v, hread, hv⟩ := conditionOf_some_eq_ok_iff.mp hc
    refine ⟨hc, ?_⟩
    calc printed.text = change.head
        ↔ (change.statement c).compile = .ok change.head := by rw [hsql, Except.ok.injEq]
      _ ↔ v = .object [] := by
          rw [change.compile_eq_head_iff, Condition.isVacuous_iff_of_ofJson hv]
      _ ↔ Json.read text = .ok (.object []) := by rw [hread, Except.ok.injEq]
      _ ↔ Json.IsEmptyObject text := Json.read_eq_object_nil_iff text

/-- Two comparisons as a tree, the first with the text of the second as its value; the object
without members as a document; and a command line whose last condition is such an object with
blanks. -/
theorem unfiltered_iff_delete :
    let c : Condition := .and [.compare "a" .eq (.string "`b` = 1"),
      .compare "b" .eq (.number (.integer 1))]
    let body := "(`a` = \"`b` = 1\") AND (`b` = 1)"
    (((Change.delete "t").statement c).compile = .ok ("DELETE FROM `t` WHERE " ++ body) ∧
      c.IsSaidBy body) ∧
    ((Change.delete "t").statement .empty).compile = .ok "DELETE FROM `t`" ∧
    ∃ printed, run (fun _ => .error .missing)
        ["delete", "--table", "t", "--where", "\x7b\"a\":1\x7d", "--where", " \x7b \x7d"] =
          .ok printed ∧
      printed.text = "DELETE FROM `t`" := by
  intro c body
  obtain ⟨htree, hdocument, hline⟩ := unfiltered_iff fun _ => .error .missing
  have hsql : ((Change.delete "t").statement c).compile =
      .ok ((Change.delete "t").head ++ " WHERE " ++ body) := rfl
  refine ⟨⟨hsql, ?_⟩, (hdocument (.delete "t") (.object []) .empty rfl).mpr rfl, ?_⟩
  · have hvacuous : ¬ c.IsVacuous := by
      simp [c, Condition.and, Condition.IsVacuous]
    rcases (htree (.delete "t") c).2 hvacuous with ⟨said, -, hsaid, -, h⟩ | ⟨fault, hfault⟩
    · -- the head is the same, and so is what stands behind it
      rw [hsql, Except.ok.injEq, ← String.toList_inj] at hsaid
      simp only [String.toList_append, List.append_cancel_left_eq] at hsaid
      rwa [String.toList_inj.mp hsaid]
    · rw [hsql] at hfault
      cases hfault
  · refine ⟨_, rfl, ?_⟩
    obtain ⟨items, hitems, hcase⟩ := hline .delete
      ["--table", "t", "--where", "\x7b\"a\":1\x7d", "--where", " \x7b \x7d"] _ (.inr rfl) rfl
    cases hitems
    rcases hcase with ⟨hhelp, -⟩ | ⟨change, c, hasks, -, hfilter⟩
    · exact absurd hhelp (by decide)
    · cases hasks with
      | delete htable =>
          cases htable
          exact (hfilter " \x7b \x7d" rfl).2.mpr (by decide)

end DocumentSql
