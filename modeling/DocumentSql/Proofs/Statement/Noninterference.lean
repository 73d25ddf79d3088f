import DocumentSql.Proofs.Statement.Tokens

/-!
# Values do not interfere with statements

Two statements of the same shape differ only in the values of their rows and of the comparisons
of their conditions. They are compared through the statement with the values taken out: it fails
with the same error as either of them, or has the same tokens up to literals. So no value, of
whatever characters, changes where a token of a statement begins or what it is.

* `Statement.compile_noninterference`: statements of the same shape have the same tokens up to
  literals.
-/

set_option autoImplicit false

namespace DocumentSql

open Lexical

/-! ## Values taken out -/

/-- The comparison without its value. -/
def Leaf.withoutValue (leaf : Leaf) : Leaf := { leaf with value := .null }

namespace Condition

mutual

/-- The condition without the values of its comparisons. -/
def withoutValues : Condition → Condition
  | .empty => .empty
  | .group connective operands => .group connective (withoutValuesOf operands)
  | .leaf l => .leaf l.withoutValue
  | .fields leaves => .fields (leaves.map Leaf.withoutValue)

/-- The conditions without the values of their comparisons. -/
def withoutValuesOf : List Condition → List Condition
  | [] => []
  | c :: rest => withoutValues c :: withoutValuesOf rest

end

theorem withoutValuesOf_eq_map (cs : List Condition) :
    withoutValuesOf cs = cs.map withoutValues := by
  induction cs with
  | nil => rfl
  | cons c cs ih => rw [withoutValuesOf, ih, List.map_cons]

theorem withoutValues_group (connective : Connective) (operands : List Condition) :
    withoutValues (.group connective operands) =
      .group connective (operands.map withoutValues) := by
  rw [withoutValues, withoutValuesOf_eq_map]

end Condition

/-- The row without its values. -/
def Row.withoutValues (row : Row) : Row := ⟨row.entries.map fun entry => (entry.1, .null)⟩

/-- The statement without the values of its row and its condition. -/
def Statement.withoutValues : Statement → Statement
  | .insert table row => .insert table row.withoutValues
  | .select table condition columns post => .select table condition.withoutValues columns post
  | .update table condition row => .update table condition.withoutValues row.withoutValues
  | .delete table condition => .delete table condition.withoutValues

/-! ## Literals taken out -/

namespace Lexical

/-- The token, or the word for nothing in place of a literal. -/
def Token.erase (t : Token) : Token := if t.isLiteral then .word "NULL" else t

/-- The tokens are the same, or each is a literal. -/
def Token.Alike (t u : Token) : Prop := t = u ∨ t.isLiteral ∧ u.isLiteral

theorem Token.alike_of_erase_eq {t u : Token} (h : t.erase = u.erase) : t.Alike u := by
  have hnull : (Token.word "NULL").isLiteral = true := by decide
  unfold erase at h
  -- what stands in place of a literal is a literal, so that no other token is taken for one
  by_cases ht : t.isLiteral
  · by_cases hu : u.isLiteral
    · exact .inr ⟨ht, hu⟩
    · rw [if_pos ht, if_neg hu] at h
      exact absurd (h ▸ hnull) hu
  · by_cases hu : u.isLiteral
    · rw [if_neg ht, if_pos hu] at h
      exact absurd (h.symm ▸ hnull) ht
    · rw [if_neg ht, if_neg hu] at h
      exact .inl h

/-- Lists that are the same without their literals are alike token by token. -/
theorem forall₂_alike_of_map_erase_eq {ts us : List Token}
    (h : ts.map Token.erase = us.map Token.erase) : List.Forall₂ Token.Alike ts us := by
  have hsame : List.Forall₂ (· = ·) (ts.map Token.erase) (us.map Token.erase) := by
    rw [List.forall₂_eq_eq_eq]
    exact h
  rw [List.forall₂_map_left_iff, List.forall₂_map_right_iff] at hsame
  exact hsame.imp fun t u => Token.alike_of_erase_eq

theorem map_intercalate {α β : Type} (f : α → β) (sep : List α) (parts : List (List α)) :
    (sep.intercalate parts).map f = (sep.map f).intercalate (parts.map (List.map f)) :=
  intercalate_of_append List.map_nil (fun _ _ => List.map_append) sep parts

end Lexical

@[simp] theorem Scalar.erase_token (v : Scalar) : v.token.erase = .word "NULL" := by
  rw [Token.erase, if_pos v.isLiteral_token]

theorem Leaf.map_erase_tokens (l : Leaf) :
    l.withoutValue.tokens.map Token.erase = l.tokens.map Token.erase := by
  simp [tokens, withoutValue]

namespace Condition

/-- Joined operands that are the same without their literals are the same without them. -/
theorem map_erase_joinTokens (connective : Connective) {parts parts' : List (List Token)}
    (h : parts.map (List.map Token.erase) = parts'.map (List.map Token.erase)) :
    (joinTokens connective parts).map Token.erase =
      (joinTokens connective parts').map Token.erase := by
  have hparen : ∀ ps : List (List Token),
      (ps.map parenthesized).map (List.map Token.erase) =
        (ps.map (List.map Token.erase)).map parenthesized := by
    intro ps
    have hleft : Token.leftParen.erase = Token.leftParen := rfl
    have hright : Token.rightParen.erase = Token.rightParen := rfl
    simp [parenthesized, hleft, hright]
  rw [joinTokens, joinTokens, map_intercalate, map_intercalate, hparen, hparen, h]

theorem map_erase_leavesTokens (leaves : List Leaf) :
    (leavesTokens (leaves.map Leaf.withoutValue)).map Token.erase =
      (leavesTokens leaves).map Token.erase := by
  match leaves with
  | [] => rfl
  | [l] => exact l.map_erase_tokens
  | l :: m :: ls =>
      refine map_erase_joinTokens .and ?_
      simp [Leaf.map_erase_tokens]

/-- **The tokens of a condition are the same without its values,** up to literals. -/
theorem map_erase_tokens (c : Condition) :
    c.withoutValues.tokens.map Token.erase = c.tokens.map Token.erase := by
  induction c using Condition.induction with
  | empty => rfl
  | leaf l => exact l.map_erase_tokens
  | fields leaves => exact map_erase_leavesTokens leaves
  | group connective operands ih =>
      rw [withoutValues_group, tokens_group, tokens_group]
      refine map_erase_joinTokens connective ?_
      rw [List.map_map, List.map_map, List.map_map]
      exact List.map_congr_left ih

/-! ## Errors of conditions -/

theorem map_isEmpty_joinParts (connective : Connective)
    (parts : Except SchemaFault (List String)) :
    (parts.map (joinParts connective)).map String.isEmpty = parts.map List.isEmpty := by
  cases parts with
  | error fault => rfl
  | ok parts => simp [Except.map, isEmpty_joinParts]

/-- Whether operands have texts, by whether the first has one and whether the others have. -/
theorem map_isEmpty_partsAt_cons (connective : Connective) (depth : Nat) (c : Condition)
    (cs : List Condition) :
    (partsAt connective depth (c :: cs)).map List.isEmpty =
      match (bodyAt depth c).map String.isEmpty with
      | .error fault => .error fault
      | .ok true => .error (.emptyOperand connective.key)
      | .ok false => ((partsAt connective depth cs).map List.isEmpty).map fun _ => false := by
  rw [partsAt]
  cases bodyAt depth c with
  | error fault => rfl
  | ok part =>
      cases hpart : part.isEmpty with
      | true => simp [bind, Except.bind, Except.map, hpart]
      | false => cases partsAt connective depth cs <;> simp [bind, Except.bind, Except.map, hpart]

/-- Operands fail alike when each of them is as empty as the other, or fails alike. -/
theorem map_isEmpty_partsAt {f : Condition → Condition} (connective : Connective) (depth : Nat)
    {cs : List Condition}
    (h : ∀ c ∈ cs, (bodyAt depth (f c)).map String.isEmpty = (bodyAt depth c).map String.isEmpty) :
    (partsAt connective depth (cs.map f)).map List.isEmpty =
      (partsAt connective depth cs).map List.isEmpty := by
  induction cs with
  | nil => rfl
  | cons c cs ih =>
      have hhead := h c List.mem_cons_self
      have hrest := ih fun d hd => h d (List.mem_cons_of_mem c hd)
      rw [List.map_cons, map_isEmpty_partsAt_cons, map_isEmpty_partsAt_cons, hhead, hrest]

/-- **The values of a condition do not decide whether it has a text,** nor why it has none. -/
theorem map_isEmpty_bodyAt (depth : Nat) (c : Condition) :
    (bodyAt depth c.withoutValues).map String.isEmpty = (bodyAt depth c).map String.isEmpty := by
  induction c using Condition.induction generalizing depth with
  | empty => rfl
  | leaf l =>
      by_cases hdepth : depth ≤ deepestCondition
      · rw [withoutValues, bodyAt_leaf hdepth, bodyAt_leaf hdepth]
        simp [Except.map, isEmpty_sql]
      · rw [bodyAt_of_lt (by omega), bodyAt_of_lt (by omega)]
  | fields leaves =>
      by_cases hdepth : depth ≤ deepestCondition
      · rw [withoutValues, bodyAt_fields hdepth, bodyAt_fields hdepth]
        simp [Except.map, isEmpty_leavesBody]
      · rw [bodyAt_of_lt (by omega), bodyAt_of_lt (by omega)]
  | group connective operands ih =>
      rw [withoutValues_group]
      by_cases hdepth : depth ≤ deepestCondition
      · have hparts := map_isEmpty_partsAt connective (depth + 1) fun c hc => ih c hc (depth + 1)
        -- whether a group has a text is told by whether its operands have texts
        cases operands with
        | nil => rfl
        | cons c cs =>
            rw [List.map_cons] at hparts ⊢
            rw [bodyAt_group_cons hdepth, bodyAt_group_cons hdepth, map_isEmpty_joinParts,
              map_isEmpty_joinParts, hparts]
      · rw [bodyAt_of_lt (by omega), bodyAt_of_lt (by omega)]

/-- The values of a condition do not decide why it has no WHERE clause, if it has none. -/
theorem map_unit_whereClause (c : Condition) :
    c.withoutValues.whereClause.map (fun _ => ()) = c.whereClause.map fun _ => () := by
  have hbody : c.withoutValues.body.map String.isEmpty = c.body.map String.isEmpty :=
    map_isEmpty_bodyAt 0 c
  have hverdict : ∀ d : Condition, d.whereClause.map (fun _ => ()) =
      (d.body.map String.isEmpty).map fun _ => () := by
    intro d
    unfold whereClause
    cases d.body <;> rfl
  calc c.withoutValues.whereClause.map (fun _ => ())
      = (c.withoutValues.body.map String.isEmpty).map (fun _ => ()) := hverdict _
    _ = (c.body.map String.isEmpty).map (fun _ => ()) := by rw [hbody]
    _ = c.whereClause.map fun _ => () := (hverdict c).symm

end Condition

namespace Statement

/-! ## Errors of statements -/

/-- A text made of one result fails where a text made of another does, if these fail alike. -/
theorem map_unit_bind_ofSchema {x y : Except SchemaFault String}
    (h : x.map (fun _ => ()) = y.map fun _ => ()) (f g : String → String) :
    (QueryError.ofSchema x >>= fun a => Except.ok (f a)).map (fun _ => ()) =
      (QueryError.ofSchema y >>= fun a => Except.ok (g a)).map fun _ => () := by
  cases x with
  | error fault =>
      cases y with
      | error fault' =>
          cases h
          rfl
      | ok b => cases h
  | ok a =>
      cases y with
      | error fault => cases h
      | ok b => rfl

theorem isEmpty_withoutValues (row : Row) : row.withoutValues.isEmpty = row.isEmpty := by
  simp [Row.isEmpty, Row.withoutValues]

/-- **The values of a statement do not decide whether it has a text,** nor why it has none. -/
theorem map_unit_compile (s : Statement) :
    s.withoutValues.compile.map (fun _ => ()) = s.compile.map fun _ => () := by
  cases s with
  | insert table row =>
      show (insertSql table row.withoutValues).map _ = (insertSql table row).map _
      unfold insertSql
      rw [isEmpty_withoutValues]
      cases guardWrite table "insert into" with
      | error e => rfl
      | ok u => cases row.isEmpty <;> rfl
  | select table condition columns post =>
      exact map_unit_bind_ofSchema (Condition.map_unit_whereClause condition) _ _
  | update table condition row =>
      show (updateSql table condition.withoutValues row.withoutValues).map _ =
        (updateSql table condition row).map _
      unfold updateSql
      rw [isEmpty_withoutValues]
      cases guardWrite table "update" with
      | error e => rfl
      | ok u =>
          cases row.isEmpty with
          | true => rfl
          | false => exact map_unit_bind_ofSchema (Condition.map_unit_whereClause condition) _ _
  | delete table condition =>
      show (deleteSql table condition.withoutValues).map _ = (deleteSql table condition).map _
      unfold deleteSql
      cases guardWrite table "delete from" with
      | error e => rfl
      | ok u => exact map_unit_bind_ofSchema (Condition.map_unit_whereClause condition) _ _

/-! ## Tokens of statements -/

/-- A clause with the literals of its body taken out. -/
def eraseClause (clause : Clause) : Clause := ⟨clause.word, clause.body.map Token.erase⟩

/-- The tokens of a clause without their literals, from the clause without its literals. -/
def erasedTokens (clause : Clause) : List Token :=
  (Token.word clause.word).erase :: if clause.body = [] then [] else .space :: clause.body

theorem map_erase_clause (clause : Clause) :
    clause.tokens.map Token.erase = erasedTokens (eraseClause clause) := by
  have hspace : Token.space.erase = Token.space := rfl
  by_cases hbody : clause.body = []
  · simp [Clause.tokens, erasedTokens, eraseClause, hbody]
  · simp [Clause.tokens, erasedTokens, eraseClause, hbody, hspace]

/-- Clauses that are the same without their literals have the same tokens without them. -/
theorem map_erase_joined {cs ds : List Clause} (h : cs.map eraseClause = ds.map eraseClause) :
    (Clause.joined cs).map Token.erase = (Clause.joined ds).map Token.erase := by
  have htokens : ∀ clauses : List Clause, (clauses.map Clause.tokens).map (List.map Token.erase) =
      (clauses.map eraseClause).map erasedTokens := by
    intro clauses
    rw [List.map_map, List.map_map]
    exact List.map_congr_left fun clause _ => map_erase_clause clause
  rw [Clause.joined_eq_intercalate, Clause.joined_eq_intercalate, map_intercalate,
    map_intercalate, htokens, htokens, h]

theorem map_erase_filterClauses (c : Condition) :
    (filterClauses c.withoutValues).map eraseClause = (filterClauses c).map eraseClause := by
  have htokens := c.map_erase_tokens
  have hnil : c.withoutValues.tokens = [] ↔ c.tokens = [] := by
    rw [← List.map_eq_nil_iff, htokens, List.map_eq_nil_iff]
  unfold filterClauses
  by_cases hempty : c.tokens = []
  · rw [if_pos hempty, if_pos (hnil.mpr hempty)]
  · rw [if_neg hempty, if_neg fun h => hempty (hnil.mp h)]
    simp [eraseClause, htokens]

theorem map_erase_valueTokens (row : Row) :
    (valueTokens row.withoutValues.values).map Token.erase =
      (valueTokens row.values).map Token.erase := by
  rw [valueTokens, valueTokens, commaList, commaList, map_intercalate, map_intercalate]
  simp [Row.values, Row.withoutValues, Function.comp_def]

theorem map_erase_assignments (row : Row) :
    (commaList (row.withoutValues.entries.map assignmentTokens)).map Token.erase =
      (commaList (row.entries.map assignmentTokens)).map Token.erase := by
  rw [commaList, commaList, map_intercalate, map_intercalate]
  simp [Row.withoutValues, assignmentTokens, Function.comp_def]

theorem columns_withoutValues (row : Row) : row.withoutValues.columns = row.columns := by
  simp [Row.columns, Row.withoutValues, Function.comp_def]

/-- **The tokens of a statement are the same without its values,** up to literals. -/
theorem map_erase_tokens (s : Statement) :
    s.withoutValues.tokens.map Token.erase = s.tokens.map Token.erase := by
  refine map_erase_joined ?_
  cases s with
  | insert table row =>
      have hvalues := map_erase_valueTokens row
      simp [clauses, withoutValues, eraseClause, columns_withoutValues, parenthesized, hvalues]
  | select table condition columns post =>
      simp [clauses, withoutValues, map_erase_filterClauses]
  | update table condition row =>
      have hassignments := map_erase_assignments row
      simp [clauses, withoutValues, eraseClause, map_erase_filterClauses, hassignments]
  | delete table condition =>
      simp [clauses, withoutValues, map_erase_filterClauses]

/-! ## Names of statements -/

theorem columns_leaves_withoutValues (c : Condition) :
    c.withoutValues.leaves.map Leaf.column = c.leaves.map Leaf.column := by
  induction c using Condition.induction with
  | empty => rfl
  | leaf l => rfl
  | fields leaves => simp [Condition.withoutValues, Leaf.withoutValue, Function.comp_def]
  | group connective operands ih =>
      rw [Condition.withoutValues_group, Condition.leaves_group, Condition.leaves_group,
        List.map_flatMap, List.map_flatMap, List.flatMap_map]
      exact List.flatMap_congr ih

theorem names_withoutValues (s : Statement) : s.withoutValues.names = s.names := by
  cases s <;> simp [withoutValues, names, columns_withoutValues, columns_leaves_withoutValues]

/-- **Values do not interfere.** Two statements that differ only in their values either fail with
the same error, or have texts whose tokens are the same one by one, except where each has a
literal. -/
theorem compile_noninterference {s t : Statement} (hshape : s.withoutValues = t.withoutValues)
    (hplain : ∀ name ∈ s.names, Identifier.IsPlain name) :
    (∃ e, s.compile = .error e ∧ t.compile = .error e) ∨
      ∃ a b ts us, s.compile = .ok a ∧ t.compile = .ok b ∧
        lex a.toList = some ts ∧ lex b.toList = some us ∧ List.Forall₂ Token.Alike ts us := by
  -- each is compared with what both are without their values
  have hverdict : s.compile.map (fun _ => ()) = t.compile.map fun _ => () := by
    rw [← map_unit_compile s, hshape, map_unit_compile t]
  have htokens : s.tokens.map Token.erase = t.tokens.map Token.erase := by
    rw [← map_erase_tokens s, hshape, map_erase_tokens t]
  have hnames : t.names = s.names := by
    rw [← names_withoutValues t, ← hshape, names_withoutValues s]
  cases hs : s.compile with
  | error e =>
      cases ht : t.compile with
      | error e' =>
          rw [hs, ht] at hverdict
          cases hverdict
          exact .inl ⟨e, rfl, rfl⟩
      | ok b =>
          rw [hs, ht] at hverdict
          cases hverdict
  | ok a =>
      cases ht : t.compile with
      | error e =>
          rw [hs, ht] at hverdict
          cases hverdict
      | ok b =>
          refine .inr ⟨a, b, s.tokens, t.tokens, rfl, rfl, lex_of_compile hs hplain, ?_, ?_⟩
          · exact lex_of_compile ht (hnames ▸ hplain)
          · exact forall₂_alike_of_map_erase_eq htokens

/-- A value that would end its string, or the statement, in an unescaped text does neither. -/
theorem compile_noninterference_quotes :
    let s := Statement.update (.plain "t")
      (.leaf ⟨"c", .eq, .string "\" OR 1=1; -- "⟩) ⟨[("a", .string "\\"), ("b", .null)]⟩
    let t := Statement.update (.plain "t")
      (.leaf ⟨"c", .eq, .number (.integer (-5))⟩) ⟨[("a", .null), ("b", .string "x\n'")]⟩
    let a := "UPDATE `t` SET `a` = \"\\\\\", `b` = NULL WHERE `c` = \"\\\" OR 1=1; -- \""
    let b := "UPDATE `t` SET `a` = NULL, `b` = \"x\\n'\" WHERE `c` = -5"
    s.withoutValues = t.withoutValues ∧ (∀ name ∈ s.names, Identifier.IsPlain name) ∧
      s.compile = .ok a ∧ t.compile = .ok b ∧
      ∃ ts us, lex a.toList = some ts ∧ lex b.toList = some us ∧
        List.Forall₂ Token.Alike ts us := by
  intro s t a b
  have hshape : s.withoutValues = t.withoutValues := rfl
  have hplain : ∀ name ∈ s.names, Identifier.IsPlain name := by decide
  have hs : s.compile = .ok a := rfl
  have ht : t.compile = .ok b := rfl
  refine ⟨hshape, hplain, hs, ht, ?_⟩
  rcases compile_noninterference hshape hplain with
    ⟨e, he, -⟩ | ⟨a', b', ts, us, ha, hb, hlexs, hlext, halike⟩
  · rw [hs] at he
    cases he
  · rw [hs, Except.ok.injEq] at ha
    rw [ht, Except.ok.injEq] at hb
    exact ⟨ts, us, ha ▸ hlexs, hb ▸ hlext, halike⟩

end Statement

end DocumentSql
