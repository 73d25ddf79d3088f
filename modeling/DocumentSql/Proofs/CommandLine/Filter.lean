import DocumentSql.Proofs.CommandLine.Change
import DocumentSql.Proofs.Condition.Comparisons

/-!
# From the text of `--where` to the WHERE clause

The last `--where` of a command line is read as a document, the document as a condition, and the
condition is written as a WHERE clause. Of the comparisons in the text, those that count come
through all three, one for one and in their order, and no others come up. Where a key is written
twice in an object, the first of its members does not count; where none is, nothing is lost.

* `comparisons_printed`: what becomes of the comparisons in a text.
* `comparison_lost_before_same_key`: a comparison that does not count.
-/

set_option autoImplicit false

namespace DocumentSql

open Lexical

/-! ## Statements with a condition -/

namespace Statement

/-- A WHERE clause stands between the head of a statement and what follows. -/
theorem assemble_whereClause {head : String} (hhead : head ≠ "") (body : String)
    (rest : List String) :
    ∃ after, assemble (head :: ("WHERE " ++ body) :: rest) = head ++ " WHERE " ++ body ++ after ∧
      assemble (head :: "" :: rest) = head ++ after := by
  have hclause : "WHERE " ++ body ≠ "" := by simp
  refine ⟨String.ofList (rest.flatMap segmentText), ?_, ?_⟩
  · rw [← String.toList_inj, toList_assemble hhead]
    simp [segmentText, hclause]
  · rw [← String.toList_inj, toList_assemble hhead]
    simp [segmentText]

/-- **The text of a condition** stands behind the WHERE of the statement. The same statement
without a condition has neither of the two. -/
theorem exists_around_body {s : Statement} {text : String} (h : s.compile = .ok text)
    {c : Condition} (hc : s.condition? = some c) (hne : c.leaves ≠ []) :
    ∃ before body after, text = before ++ " WHERE " ++ body ++ after ∧
      (s.withCondition .empty).compile = .ok (before ++ after) ∧ c.IsSaidBy body := by
  obtain ⟨head, rest, hhead, hcompile⟩ := exists_segments h (by simp [hc])
  have hself : s.withCondition c = s := by
    cases s <;> cases hc <;> rfl
  -- the statement has a text, so that the condition has one
  have hclause := hcompile c
  rw [hself, h] at hclause
  cases hbody : c.body with
  | error fault =>
      rw [Condition.whereClause, hbody] at hclause
      cases hclause
  | ok body =>
      have hempty : body ≠ "" := by
        intro hempty
        rcases (Condition.text_eq_empty_iff hbody).mp hempty with rfl | rfl <;> exact hne rfl
      obtain ⟨after, hwith, hwithout⟩ := assemble_whereClause hhead body rest
      refine ⟨head, body, after, ?_, ?_, Condition.isSaidBy_of_body hbody hempty⟩
      · rw [Condition.whereClause_eq_ok_iff.mpr ⟨body, hbody, rfl⟩, if_neg hempty] at hclause
        rw [← hwith]
        exact Except.ok.inj hclause
      · rw [hcompile, ← hwithout]
        rfl

end Statement

/-! ## Command lines -/

namespace CommandLine

/-- **What is printed** by a command that has a condition is help, or a statement with the
condition that is asked for. -/
theorem filter_printed {files : Files} {topic : Topic}
    (htopic : topic = .select ∨ topic = .update ∨ topic = .delete) {arguments : List String}
    {printed : Printed} (h : run files (topic.name :: arguments) = .ok printed) :
    ∃ items, itemsOf arguments = .ok items ∧
      ((Item.help ∈ items ∧ printed = ⟨topic.help, []⟩) ∨
        ∃ statement : Statement, ∃ c, statement.condition? = some c ∧
          conditionOf (lastValue? .condition items) = .ok c ∧
          statement.compile = .ok printed.text) := by
  rcases htopic with rfl | htopic
  · obtain ⟨items, o, hitems, hadd, hcase⟩ := run_eq_ok (by decide) h
    refine ⟨items, hitems, hcase.imp_right ?_⟩
    rintro ⟨command, hcommand, hrun⟩
    obtain ⟨table, c, columns, post, hc, hsql⟩ := select_printed hcommand hrun
    refine ⟨.select table c columns post, c, rfl, ?_, hsql⟩
    rw [← text?_of_items hadd rfl]
    exact hc
  · obtain ⟨items, hitems, hcase⟩ := change_printed htopic h
    refine ⟨items, hitems, hcase.imp_right ?_⟩
    rintro ⟨change, c, -, hc, hsql⟩
    exact ⟨change.statement c, c, by cases change <;> rfl, hc, hsql⟩

end CommandLine

open CommandLine Entries Json

/-- **The comparisons in the text of the last condition.** The text is written for one document.
Those of its comparisons that count are the comparisons of the condition that is printed, one for
one and in their order, and a column that counts has one of them. If no key is written twice in an
object, these are all comparisons in the text, in the order in which they are written. The WHERE
clause says this condition, and the condition is nowhere else in the statement. -/
theorem comparisons_printed (files : Files) {topic : Topic}
    (htopic : topic = .select ∨ topic = .update ∨ topic = .delete) {arguments : List String}
    {printed : Printed} (h : run files (topic.name :: arguments) = .ok printed) :
    ∃ items, itemsOf arguments = .ok items ∧
      ((Item.help ∈ items ∧ printed = ⟨topic.help, []⟩) ∨
        ∀ text, lastValue? .condition items = some text →
          ∃ w, w.IsWritten text ∧ (∀ w' : Json, w'.IsWritten text → w' = w) ∧
            ∃ statement : Statement, ∃ c, statement.compile = .ok printed.text ∧
              statement.condition? = some c ∧
              c.leaves = w.comparisons Entries.settle ∧
              (w.HasDistinctKeys → c.leaves = w.comparisons id) ∧
              (∀ l, l ∈ c.leaves ↔ w.Compares IsLast l) ∧
              (∀ column value, w.HasColumn IsLast column value →
                ∃ l ∈ c.leaves, IsComparison IsLast column value l) ∧
              (c.leaves ≠ [] → ∃ before body after,
                printed.text = before ++ " WHERE " ++ body ++ after ∧
                (statement.withCondition .empty).compile = .ok (before ++ after) ∧
                c.IsSaidBy body)) := by
  obtain ⟨items, hitems, hcase⟩ := filter_printed htopic h
  refine ⟨items, hitems, hcase.imp_right ?_⟩
  rintro ⟨statement, c, hfilter, hc, hsql⟩ text htext
  rw [htext] at hc
  obtain ⟨v, hread, hv⟩ := conditionOf_some_eq_ok_iff.mp hc
  obtain ⟨w, hw, rfl⟩ := exists_isWritten_of_read hread
  refine ⟨w, hw, fun w' hw' => hw'.unique hw, statement, c, hsql, hfilter, ?_, ?_, ?_, ?_, ?_⟩
  · exact Condition.leaves_eq_comparisons hv
  · exact Condition.leaves_eq_comparisons_of_hasDistinctKeys hv
  · exact fun l => Condition.mem_leaves_iff_compares hv
  · exact fun column value hcolumn => Condition.exists_mem_leaves_of_hasColumn hv hcolumn
  · exact Statement.exists_around_body hsql hfilter

/-- A command line prints something if what it prints has a text. -/
theorem exists_run_of_text {files : Files} {arguments : List String} {text : String}
    (h : (run files arguments).toOption.map Printed.text = some text) :
    ∃ printed, run files arguments = .ok printed ∧ printed.text = text := by
  obtain ⟨printed, hrun, htext⟩ := Option.map_eq_some_iff.mp h
  exact ⟨printed, toOption_eq_some_iff.mp hrun, htext⟩

/-- The last of two conditions. A column is written twice in the first of its objects, and a
comparison in both of them. -/
theorem comparisons_printed_repeated :
    ∃ printed, ∃ c : Condition,
      run (fun _ => .error .missing) ["delete", "--table", "t", "--where", "\x7b\x7d", "--where",
        "\x7b\"$or\":[\x7b\"a\":1,\"b\":3,\"a\":2\x7d,\x7b\"b\":3\x7d]\x7d"] = .ok printed ∧
      printed.text = "DELETE FROM `t` WHERE ((`a` = 2) AND (`b` = 3)) OR (`b` = 3)" ∧
      c.leaves = [⟨"a", .eq, .number (.integer 2)⟩, ⟨"b", .eq, .number (.integer 3)⟩,
        ⟨"b", .eq, .number (.integer 3)⟩] ∧
      ∃ before body after, printed.text = before ++ " WHERE " ++ body ++ after ∧
        c.IsSaidBy body := by
  have hprinted : (run (fun _ => .error .missing) ["delete", "--table", "t", "--where",
      "\x7b\x7d", "--where",
      "\x7b\"$or\":[\x7b\"a\":1,\"b\":3,\"a\":2\x7d,\x7b\"b\":3\x7d]\x7d"]).toOption.map
        Printed.text =
          some "DELETE FROM `t` WHERE ((`a` = 2) AND (`b` = 3)) OR (`b` = 3)" := by
    decide +kernel
  have hw : IsWritten "\x7b\"$or\":[\x7b\"a\":1,\"b\":3,\"a\":2\x7d,\x7b\"b\":3\x7d]\x7d"
      (.object [("$or", .array
        [.object [("a", .number (.integer 1)), ("b", .number (.integer 3)),
          ("a", .number (.integer 2))], .object [("b", .number (.integer 3))]])]) := by
    have hstring {s rest : List Char} {key : String} := (@readString_eq_ok_iff s rest key).mp
    have hnumber {s rest : List Char} {n : JsonNumber} (h : readNumber false (skipBlanks s) =
      .ok (.number n, rest)) : Begins s (.number n) rest :=
      .atom (.natural (readNumber_eq_ok_iff.mp h))
    -- from the outside in: the array, its first object with three members, and its second
    exact ⟨[], .object rfl (.list (.last (.mk rfl (hstring rfl) rfl (.array rfl (.list (.next
      (.object rfl (.list (.next (.mk rfl (hstring rfl) rfl (hnumber rfl)) rfl
        (.next (.mk rfl (hstring rfl) rfl (hnumber rfl)) rfl
          (.last (.mk rfl (hstring rfl) rfl (hnumber rfl)) rfl))))) rfl
      (.last (.object rfl (.list (.last (.mk rfl (hstring rfl) rfl (hnumber rfl)) rfl)))
        rfl))))) rfl)), rfl⟩
  obtain ⟨printed, hrun, htext⟩ := exists_run_of_text hprinted
  obtain ⟨items, hitems, hcase⟩ := comparisons_printed _ (.inr (.inr rfl)) hrun
  cases hitems
  rcases hcase with ⟨hhelp, -⟩ | hfilter
  · exact absurd hhelp (by decide)
  · obtain ⟨w, -, hunique, statement, c, -, -, hleaves, -, -, -, hsaid⟩ := hfilter _ rfl
    rw [← hunique _ hw] at hleaves
    have hlist : c.leaves = [⟨"a", .eq, .number (.integer 2)⟩, ⟨"b", .eq, .number (.integer 3)⟩,
        ⟨"b", .eq, .number (.integer 3)⟩] := hleaves.trans (by decide)
    obtain ⟨before, body, after, hbody, -, h⟩ := hsaid (by simp [hlist])
    exact ⟨printed, c, hrun, htext, hlist, before, body, after, hbody, h⟩

/-- **A comparison that is followed by another one of its column** is in the text, and not in what
is printed. -/
theorem comparison_lost_before_same_key :
    ¬ ∀ (files : Files) (topic : Topic) (arguments : List String) (printed : Printed)
        (items : List Item) (text : String) (w : Json),
      (topic = .select ∨ topic = .update ∨ topic = .delete) →
      run files (topic.name :: arguments) = .ok printed → itemsOf arguments = .ok items →
      Item.help ∉ items → lastValue? .condition items = some text → w.IsWritten text →
      ∀ l ∈ w.comparisons id, l.sql.toList <:+: printed.text.toList := by
  intro h
  have hprinted : (run (fun _ => .error .missing) ["delete", "--table", "t", "--where",
      "\x7b\"a\":1,\"a\":2\x7d"]).toOption.map Printed.text =
        some "DELETE FROM `t` WHERE `a` = 2" := by decide +kernel
  obtain ⟨printed, hrun, htext⟩ := exists_run_of_text hprinted
  -- both members are written, and only the last one counts
  have hw : IsWritten "\x7b\"a\":1,\"a\":2\x7d"
      (.object [("a", .number (.integer 1)), ("a", .number (.integer 2))]) := by
    have hkey : ∀ s, BeginsString ('a' :: '"' :: s) "a" s := fun s =>
      ⟨['a'], rfl, .cons (.plain (by decide) (by decide) (by decide)) .nil⟩
    refine ⟨[], .object rfl (.list ?_), rfl⟩
    refine .next (.mk rfl (hkey _) rfl (.atom (.natural (readNumber_eq_ok_iff.mp rfl)))) rfl ?_
    exact .last (.mk rfl (hkey _) rfl (.atom (.natural (readNumber_eq_ok_iff.mp rfl)))) rfl
  have hl : (⟨"a", .eq, .number (.integer 1)⟩ : Leaf) ∈ comparisons id
      (.object [("a", .number (.integer 1)), ("a", .number (.integer 2))]) := by decide
  have hin := h _ .delete _ printed _ _ _ (.inr (.inr rfl)) hrun rfl (by decide) rfl hw _ hl
  rw [htext] at hin
  revert hin
  decide +kernel

end DocumentSql
