import DocumentSql.Proofs.Entries
import DocumentSql.Proofs.Statement.Change

/-!
# The columns of a row

A row is a map that keeps the order in which its columns first came. However it is put together,
each column is in it once, with the value that was put in last. So an INSERT and an UPDATE name
each column once: the one lists the columns and the values apart, in the same order, the other
gives each column its value.

* `Row.Holds`: what is in a row after some insertions.
* `Row.holds_ofList`: every row is such a map.
* `Row.columns_once_in_order`: the same for documents and for the two statements.
-/

set_option autoImplicit false

namespace DocumentSql.Row

open Entries (IsLast)

/-- The row is what is left of some cells that were put in one after the other: each column once,
in the order in which they first came, with the last value of each. -/
structure Holds (row : Row) (cells : List (String × Scalar)) : Prop where
  nodup : row.columns.Nodup
  order : row.columns = (Entries.keys cells).eraseDups
  value : ∀ column value, row.get? column = some value ↔ IsLast cells column value

/-- A column is missing where it was never put in. -/
theorem Holds.get?_eq_none_iff {row : Row} {cells : List (String × Scalar)}
    (h : Holds row cells) {column : String} :
    row.get? column = none ↔ column ∉ Entries.keys cells := by
  have hcolumn : column ∈ row.columns ↔ column ∈ Entries.keys cells := by
    rw [h.order, List.mem_eraseDups]
  rw [← hcolumn]
  exact Entries.get?_eq_none_iff

theorem holds_empty : Holds empty [] where
  nodup := List.nodup_nil
  order := rfl
  value _ _ := by
    constructor
    · intro h
      cases h
    · rintro ⟨before, after, h, -⟩
      exact absurd h.symm (List.append_ne_nil_of_right_ne_nil before (List.cons_ne_nil _ after))

/-- One cell more. -/
theorem Holds.insert {row : Row} {cells : List (String × Scalar)} (h : Holds row cells)
    (column : String) (value : Scalar) :
    Holds (row.insert column value) (cells ++ [(column, value)]) where
  nodup := Entries.nodup_keys_put h.nodup column value
  order := by
    rw [Entries.keys, List.map_append]
    exact Entries.keys_put_eq_eraseDups h.order column value
  value other found := by
    rw [Entries.isLast_concat_iff, ← h.value]
    by_cases hother : other = column
    · subst hother
      have hself : (row.insert other value).get? other = some value :=
        Entries.get?_put_self other value row.entries
      simp [hself]
    · have hkept : (row.insert column value).get? other = row.get? other :=
        Entries.get?_put_of_ne hother value row.entries
      simp [hkept, Ne.symm hother]

/-- Cells that are put into a row come after those it holds. -/
theorem ofList_append (cells more : List (String × Scalar)) :
    ofList (cells ++ more) =
      more.foldl (fun row cell => row.insert cell.1 cell.2) (ofList cells) :=
  List.foldl_append

/-- **A row holds what was put in,** however many cells that were. -/
theorem holds_ofList (cells : List (String × Scalar)) : Holds (ofList cells) cells := by
  induction cells using List.reverseRecOn with
  | nil => exact holds_empty
  | append_singleton cells cell ih =>
      rw [ofList_append]
      exact ih.insert cell.1 cell.2

/-! ## Rows from documents -/

/-- A member of an object and the cell it stands for. -/
def IsCellOf (member : String × Json) (cell : String × Scalar) : Prop :=
  member.1 = cell.1 ∧ Scalar.ofJson member.2 = .ok cell.2

theorem exists_cells_of_insertMembers {row result : Row} {members : List (String × Json)}
    (h : insertMembers row members = .ok result) :
    ∃ cells, List.Forall₂ IsCellOf members cells ∧
      result = cells.foldl (fun row cell => row.insert cell.1 cell.2) row := by
  induction members generalizing row with
  | nil =>
      cases h
      exact ⟨[], .nil, rfl⟩
  | cons member members ih =>
      obtain ⟨column, v⟩ := member
      rw [insertMembers, bind_eq_ok_iff] at h
      obtain ⟨value, hvalue, h⟩ := h
      obtain ⟨cells, hcells, rfl⟩ := ih h
      exact ⟨(column, value) :: cells, .cons ⟨rfl, hvalue⟩ hcells, rfl⟩

/-- **The row that a document stands for** is that of its members. -/
theorem eq_ofList_of_ofJson {v : Json} {row : Row} (h : ofJson v = .ok row) :
    ∃ members cells, v = .object members ∧ List.Forall₂ IsCellOf members cells ∧
      row = ofList cells := by
  cases v with
  | object members =>
      obtain ⟨cells, hcells, hrow⟩ := exists_cells_of_insertMembers h
      exact ⟨members, cells, rfl, hcells, hrow⟩
  | _ => cases h

/-! ## Columns and values side by side -/

theorem zip_columns_values (row : Row) : row.columns.zip row.values = row.entries := by
  rw [columns, values, List.zip_map']
  exact List.map_id row.entries

/-- The value at each position is the last one of the column at this position. -/
theorem Holds.forall₂ {row : Row} {cells : List (String × Scalar)} (h : Holds row cells) :
    List.Forall₂ (IsLast cells) row.columns row.values := by
  rw [columns, values, List.forall₂_map_left_iff, List.forall₂_map_right_iff, List.forall₂_same]
  rintro ⟨column, value⟩ hcell
  exact (h.value column value).mp ((Entries.get?_eq_some_iff h.nodup).mpr hcell)

theorem Holds.entries_ne_nil {row : Row} {cells : List (String × Scalar)} (h : Holds row cells)
    (hcells : cells ≠ []) : row.entries ≠ [] := by
  intro hempty
  obtain ⟨cell, rest, rfl⟩ := List.exists_cons_of_ne_nil hcells
  have horder := h.order
  rw [columns, hempty, Entries.keys, List.map_cons, List.eraseDups_cons] at horder
  cases horder

/-- An INSERT of a row with columns lists them, and their values in the same order. -/
theorem compile_insert {row : Row} (hrow : row.entries ≠ []) (table : String) :
    (Statement.insert (.plain table) row).compile =
      .ok ("INSERT INTO " ++ Identifier.quote table ++ "(" ++ Identifier.quoteList row.columns ++
        ") VALUES (" ++ Text.joinWith ", " (row.values.map Scalar.literal) ++ ")") := by
  have hguard : Statement.guardWrite (.plain table) "insert into" = .ok () := rfl
  have hempty : ¬ row.isEmpty := by simpa [isEmpty] using hrow
  show Statement.insertSql (.plain table) row = _
  rw [Statement.insertSql, hguard]
  exact if_neg hempty

/-- An UPDATE gives each column of the row its value. -/
theorem compile_update {row : Row} (hrow : row.entries ≠ []) (table : String) {c : Condition}
    {text : String} (h : c.body = .ok text) :
    (Statement.update (.plain table) c row).compile =
      .ok ("UPDATE " ++ Identifier.quote table ++ " SET " ++
        Text.joinWith ", " ((row.columns.zip row.values).map Statement.assignment) ++
        if text = "" then "" else " WHERE " ++ text) := by
  have hchange := Change.compile_of_body (.update table row hrow) h
  rw [zip_columns_values]
  by_cases hempty : text = ""
  · rw [if_pos hempty] at hchange ⊢
    rw [String.append_empty]
    exact hchange
  · rw [if_neg hempty] at hchange ⊢
    rw [← String.append_assoc]
    exact hchange

/-- **A row is an ordered map.** Whatever cells are put in, in whatever order, each column is in
the row once, where it first came, with its last value; a column that is there already keeps its
place, and so do all others their values. This holds of the rows of documents too. Hence an
INSERT lists each column once, with its last value at the same position, and an UPDATE assigns
each column once. -/
theorem columns_once_in_order :
    (∀ cells, Holds (ofList cells) cells ∧
      ∀ column, (ofList cells).get? column = none ↔ column ∉ Entries.keys cells) ∧
    (∀ cells more : List (String × Scalar),
      more.foldl (fun row cell => row.insert cell.1 cell.2) (ofList cells) =
        ofList (cells ++ more)) ∧
    (∀ v row, ofJson v = .ok row → ∃ members cells, v = .object members ∧
      List.Forall₂ IsCellOf members cells ∧ row = ofList cells) ∧
    (∀ (row : Row) column value, column ∈ row.columns →
      (row.insert column value).columns = row.columns ∧
      ∀ other, other ≠ column → (row.insert column value).get? other = row.get? other) ∧
    ∀ (table : String) (cells : List (String × Scalar)), cells ≠ [] →
      ∃ columns values, columns.Nodup ∧ columns = (Entries.keys cells).eraseDups ∧
        List.Forall₂ (IsLast cells) columns values ∧
        (Statement.insert (.plain table) (ofList cells)).compile =
          .ok ("INSERT INTO " ++ Identifier.quote table ++ "(" ++ Identifier.quoteList columns ++
            ") VALUES (" ++ Text.joinWith ", " (values.map Scalar.literal) ++ ")") ∧
        ∀ (c : Condition) text, c.body = .ok text →
          (Statement.update (.plain table) c (ofList cells)).compile =
            .ok ("UPDATE " ++ Identifier.quote table ++ " SET " ++
              Text.joinWith ", " ((columns.zip values).map Statement.assignment) ++
              if text = "" then "" else " WHERE " ++ text) := by
  refine ⟨fun cells => ⟨holds_ofList cells, fun column => (holds_ofList cells).get?_eq_none_iff⟩,
    fun cells more => (ofList_append cells more).symm, fun v row => eq_ofList_of_ofJson,
    fun row column value hcolumn => ⟨?_, fun other hother => ?_⟩, fun table cells hcells => ?_⟩
  · exact (Entries.keys_put column value row.entries).trans (if_pos hcolumn)
  · exact Entries.get?_put_of_ne hother value row.entries
  · have h := holds_ofList cells
    have hrow := h.entries_ne_nil hcells
    exact ⟨_, _, h.nodup, h.order, h.forall₂, compile_insert hrow table,
      fun c text htext => compile_update hrow table htext⟩

/-- A column that is put in again, and the statements of the row on a table. -/
theorem columns_once_in_order_again :
    let cells : List (String × Scalar) :=
      [("b", .number (.integer 1)), ("a", .string "x"), ("b", .number (.integer 2))]
    Holds (ofList cells) cells ∧ (ofList cells).columns = ["b", "a"] ∧
      ((ofList cells).insert "b" .null).columns = ["b", "a"] ∧
      ofJson (.object [("b", .null)]) = .ok (ofList [("b", .null)]) ∧
      (∃ members cells', Json.object [("b", .null)] = .object members ∧
        List.Forall₂ IsCellOf members cells' ∧ ofList [("b", .null)] = ofList cells') ∧
      (Statement.insert (.plain "Pet") (ofList cells)).compile =
        .ok "INSERT INTO `Pet`(`b`, `a`) VALUES (2, \"x\")" ∧
      (Statement.update (.plain "Pet") .empty (ofList cells)).compile =
        .ok "UPDATE `Pet` SET `b` = 2, `a` = \"x\"" ∧
      ∃ columns values, columns.Nodup ∧ List.Forall₂ (IsLast cells) columns values ∧
        (Statement.insert (.plain "Pet") (ofList cells)).compile =
          .ok ("INSERT INTO `Pet`(" ++ Identifier.quoteList columns ++ ") VALUES (" ++
            Text.joinWith ", " (values.map Scalar.literal) ++ ")") := by
  intro cells
  obtain ⟨hholds, -, hjson, hinsert, hstatements⟩ := columns_once_in_order
  obtain ⟨columns, values, hnodup, -, hlast, hcompile, -⟩ :=
    hstatements "Pet" cells (List.cons_ne_nil _ _)
  have hcolumns : (ofList cells).columns = ["b", "a"] := by decide
  have hkept := (hinsert (ofList cells) "b" .null (by decide)).1
  exact ⟨(hholds cells).1, hcolumns, hkept.trans hcolumns, rfl, hjson _ _ rfl, rfl, rfl, columns,
    values, hnodup, hlast, hcompile⟩

end DocumentSql.Row
