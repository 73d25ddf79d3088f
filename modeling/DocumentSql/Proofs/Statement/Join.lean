import DocumentSql.Proofs.Result
import DocumentSql.TableRef
import Mathlib.Data.List.Perm.Basic

/-!
# Which tables the columns of a join belong to

A join on columns names a table with each of its two columns. The tables have to be different, and
every plain side has to be one of them. Two different plain sides are therefore the two tables. A
table joined with itself is named by one entry, and the other names a table that is not in the
join.

* `TableRef.joinOn_eq_ok_iff`: the joins that are made.
* `TableRef.qualifiers_perm_iff`: when the columns belong to the two tables that are joined.
-/

set_option autoImplicit false

namespace DocumentSql.TableRef

theorem namedBy_plain {first second name : String} :
    (plain name).namedBy first second = true ↔ name = first ∨ name = second := by
  simp [namedBy]

/-- **The joins on columns that are made.** -/
theorem joinOn_eq_ok_iff {left right joined : TableRef} {pairs : List (String × String)} :
    left.joinOn right pairs = .ok joined ↔
      ∃ first second, pairs = [first, second] ∧ first.1 ≠ second.1 ∧
        left.namedBy first.1 second.1 = true ∧ right.namedBy first.1 second.1 = true ∧
          joined = .equality left right first second := by
  unfold joinOn
  split
  · next first second =>
    simp only [guarded_eq_ok_iff, Except.ok.injEq, Bool.not_eq_false]
    constructor
    · rintro ⟨hne, hleft, hright, rfl⟩
      exact ⟨first, second, rfl, hne, hleft, hright, rfl⟩
    · rintro ⟨_, _, hpairs, hne, hleft, hright, rfl⟩
      cases hpairs
      exact ⟨hne, hleft, hright, rfl⟩
  · next hpairs =>
    constructor
    · intro h
      cases h
    · rintro ⟨first, second, rfl, -⟩
      exact absurd rfl (hpairs first second)

theorem isJoined_of_join {left right table : TableRef} {condition : JoinCondition}
    (h : left.join right condition = .ok table) : table.isJoined = true := by
  cases condition with
  | natural =>
      cases h
      rfl
  | on pairs =>
      obtain ⟨first, second, -, -, -, -, rfl⟩ := joinOn_eq_ok_iff.mp h
      rfl

/-- Two different tables that two different names include are those names. -/
theorem perm_of_mem_pair {first second left right : String} (hne : left ≠ right)
    (hleft : left = first ∨ left = second) (hright : right = first ∨ right = second) :
    [first, second].Perm [left, right] := by
  rcases hleft with rfl | rfl
  · rcases hright with rfl | rfl
    · exact absurd rfl hne
    · exact .refl _
  · rcases hright with rfl | rfl
    · exact .swap ..
    · exact absurd rfl hne

/-- **The columns of a join belong to the two tables that are joined,** one each, exactly when the
tables are different. -/
theorem qualifiers_perm_iff {left right : String} {pairs : List (String × String)}
    {joined : TableRef} (h : (plain left).join (plain right) (.on pairs) = .ok joined) :
    ∃ first second : String × String, pairs = [first, second] ∧
      joined.sql = Identifier.quote left ++ " JOIN " ++ Identifier.quote right ++ " ON " ++
        Identifier.quoteQualified first.1 first.2 ++ " = " ++
        Identifier.quoteQualified second.1 second.2 ∧
      ([first.1, second.1].Perm [left, right] ↔ left ≠ right) := by
  obtain ⟨first, second, hpairs, hne, hleft, hright, rfl⟩ := joinOn_eq_ok_iff.mp h
  refine ⟨first, second, hpairs, rfl, ?_, ?_⟩
  · intro hperm
    -- the two names are different, and so are those they are rearranged to
    have hnodup : [left, right].Nodup := hperm.nodup_iff.mp (by simpa using hne)
    simpa using hnodup
  · intro hdifferent
    exact perm_of_mem_pair hdifferent (namedBy_plain.mp hleft) (namedBy_plain.mp hright)

/-- Two tables joined on columns that are named the other way round. -/
theorem qualifiers_perm_iff_swapped :
    let joined : TableRef := .equality (.plain "a") (.plain "b") ("b", "y") ("a", "x")
    (plain "a").join (plain "b") (.on [("b", "y"), ("a", "x")]) = .ok joined ∧
      ∃ first second : String × String, [("b", "y"), ("a", "x")] = [first, second] ∧
        joined.sql = Identifier.quote "a" ++ " JOIN " ++ Identifier.quote "b" ++ " ON " ++
          Identifier.quoteQualified first.1 first.2 ++ " = " ++
          Identifier.quoteQualified second.1 second.2 ∧
        ([first.1, second.1].Perm ["a", "b"] ↔ "a" ≠ "b") :=
  ⟨rfl, qualifiers_perm_iff rfl⟩

/-- A table is joined with itself on a column of another table. -/
theorem join_on_column_of_other_table :
    (plain "a").join (plain "a") (.on [("a", "x"), ("b", "y")]) =
        .ok (.equality (.plain "a") (.plain "a") ("a", "x") ("b", "y")) ∧
      (TableRef.equality (.plain "a") (.plain "a") ("a", "x") ("b", "y")).sql =
        "`a` JOIN `a` ON `a`.`x` = `b`.`y`" ∧
      ¬ ["a", "b"].Perm ["a", "a"] :=
  ⟨rfl, rfl, by decide⟩

end DocumentSql.TableRef
