import DocumentSql.Proofs.Condition.Filter
import DocumentSql.Proofs.Statement.Cutting

/-!
# The grammar of SELECT

A grammar over the tokens of a text that are no blanks, said without the statements that are
written here. An offset stands only behind a limit. The text of a SELECT from a plain table follows
the grammar where its names are names, and where its directives name a limit with an offset; with an
offset alone it does not.

* `Statement.exists_isSelect`: the SELECTs whose text follows the grammar.
* `Statement.isSelect_iff`: where names are names, only an offset without a limit is left.
-/

set_option autoImplicit false

namespace DocumentSql

open Lexical

/-! ## The grammar -/

namespace Grammar

/-- A name that is not empty. -/
inductive Name : List Token → Prop where
  | mk {name : String} (h : name ≠ "") : Name [.name name]

/-- One item or more, with commas between them. -/
inductive Listed (Item : List Token → Prop) : List Token → Prop where
  | last {ts : List Token} (h : Item ts) : Listed Item ts
  | next {ts us : List Token} (h : Item ts) (hrest : Listed Item us) :
      Listed Item (ts ++ .comma :: us)

/-- The part, or nothing in its place. -/
inductive Optional (Part : List Token → Prop) : List Token → Prop where
  | absent : Optional Part []
  | present {ts : List Token} (h : Part ts) : Optional Part ts

/-- The operators that compare. -/
def operators : List Token :=
  [.sign "=", .sign "<=>", .sign "!=", .sign "<>", .sign "<", .sign ">", .sign "<=", .sign ">=",
    .word "LIKE"]

/-- What is compared: a name or a literal. -/
inductive Operand : Token → Prop where
  | name {name : String} (h : name ≠ "") : Operand (.name name)
  | literal {t : Token} (h : t.isLiteral) : Operand t

/-- Comparisons with AND and OR between them, and parentheses around any of it. -/
inductive Expression : List Token → Prop where
  | comparison {left operator right : Token} (hleft : Operand left)
      (hoperator : operator ∈ operators) (hright : Operand right) :
      Expression [left, operator, right]
  | parenthesized {ts : List Token} (h : Expression ts) : Expression (parenthesized ts)
  | combined {ts us : List Token} {word : String} (hts : Expression ts)
      (hword : word ∈ ["AND", "OR"]) (hus : Expression us) : Expression (ts ++ .word word :: us)

/-- What is selected: all columns, or those that are listed. -/
inductive Projection : List Token → Prop where
  | all : Projection [.sign "*"]
  | columns {ts : List Token} (h : Listed Name ts) : Projection ts

inductive Filter : List Token → Prop where
  | mk {ts : List Token} (h : Expression ts) : Filter (.word "WHERE" :: ts)

/-- A name with a direction. -/
inductive SortColumn : List Token → Prop where
  | mk {name direction : String} (h : name ≠ "") (hdirection : direction ∈ ["ASC", "DESC"]) :
      SortColumn [.name name, .word direction]

inductive Order : List Token → Prop where
  | mk {ts : List Token} (h : Listed SortColumn ts) : Order (.word "ORDER" :: .word "BY" :: ts)

/-- A number without a sign, a point and an exponent. -/
inductive Count : List Token → Prop where
  | mk {text : String} (hne : text ≠ "") (h : text.toList.all Char.isDigit) : Count [.number text]

inductive Offset : List Token → Prop where
  | mk {ts : List Token} (h : Count ts) : Offset (.word "OFFSET" :: ts)

/-- A limit, and an offset behind it if there is one. -/
inductive Limit : List Token → Prop where
  | mk {ts us : List Token} (h : Count ts) (hoffset : Optional Offset us) :
      Limit (.word "LIMIT" :: (ts ++ us))

inductive Select : List Token → Prop where
  | mk {columns table filter order limit : List Token} (hcolumns : Projection columns)
      (htable : Name table) (hfilter : Optional Filter filter) (horder : Optional Order order)
      (hlimit : Optional Limit limit) :
      Select (.word "SELECT" ::
        (columns ++ .word "FROM" :: (table ++ (filter ++ (order ++ limit)))))

/-- The text is cut into tokens, and these follow the grammar. -/
def IsSelect (text : String) : Prop :=
  ∃ ts, lex text.toList = some ts ∧ Select (significant ts)

/-- What holds of parts, and of a part with the separator in front of more, holds of parts with
separators between them. -/
theorem intercalate_of_forall {Item P : List Token → Prop} {sep : List Token}
    (hlast : ∀ {ts}, Item ts → P ts) (hnext : ∀ {ts us}, Item ts → P us → P (ts ++ sep ++ us))
    {parts : List (List Token)} (h : ∀ part ∈ parts, Item part) (hne : parts ≠ []) :
    P (sep.intercalate parts) := by
  induction parts with
  | nil => exact absurd rfl hne
  | cons part parts ih =>
      rw [List.forall_mem_cons] at h
      cases parts with
      | nil =>
          rw [List.intercalate_singleton]
          exact hlast h.1
      | cons p ps =>
          rw [List.intercalate_cons_cons]
          exact hnext h.1 (ih h.2 (List.cons_ne_nil p ps))

theorem Listed.commaList {Item : List Token → Prop} {parts : List (List Token)}
    (h : ∀ part ∈ parts, Item (significant part)) (hne : parts ≠ []) :
    Listed Item (significant (commaList parts)) := by
  rw [significant_commaList]
  refine intercalate_of_forall .last ?_ (List.forall_mem_map.mpr h) (by simpa using hne)
  intro ts us hts hus
  rw [List.append_assoc]
  exact .next hts hus

/-! ## Tokens out of place -/

/-- The tokens that no part in front of a limit is made of: the words of a limit, and the empty
name. -/
def outsiders : List Token := [.word "LIMIT", .word "OFFSET", .name ""]

theorem Name.notMem_outsiders {ts : List Token} (h : Name ts) : ∀ t ∈ ts, t ∉ outsiders := by
  cases h with
  | mk h => simp [outsiders, h]

theorem Listed.notMem_outsiders {Item : List Token → Prop} {ts : List Token} (h : Listed Item ts)
    (hitem : ∀ {us}, Item us → ∀ t ∈ us, t ∉ outsiders) : ∀ t ∈ ts, t ∉ outsiders := by
  induction h with
  | last h => exact hitem h
  | next h hrest ih =>
      rw [List.forall_mem_append, List.forall_mem_cons]
      exact ⟨hitem h, by decide, ih⟩

theorem Operand.notMem_outsiders {t : Token} (h : Operand t) : t ∉ outsiders := by
  cases h with
  | name h => simp [outsiders, h]
  | literal h =>
      have hwords : ∀ t ∈ outsiders, t.isLiteral = false := by decide
      intro hmem
      rw [hwords t hmem] at h
      cases h

theorem Expression.notMem_outsiders {ts : List Token} (h : Expression ts) :
    ∀ t ∈ ts, t ∉ outsiders := by
  induction h with
  | comparison hleft hoperator hright =>
      have hoperators : ∀ t ∈ operators, t ∉ outsiders := by decide
      simp only [List.forall_mem_cons]
      exact ⟨hleft.notMem_outsiders, hoperators _ hoperator, hright.notMem_outsiders, by simp⟩
  | parenthesized h ih =>
      rw [Lexical.parenthesized, List.forall_mem_cons, List.forall_mem_append]
      exact ⟨by decide, ih, by decide⟩
  | combined hts hword hus ihts ihus =>
      have hwords : ∀ word ∈ ["AND", "OR"], Token.word word ∉ outsiders := by decide
      rw [List.forall_mem_append, List.forall_mem_cons]
      exact ⟨ihts, hwords _ hword, ihus⟩

theorem Projection.notMem_outsiders {ts : List Token} (h : Projection ts) :
    ∀ t ∈ ts, t ∉ outsiders := by
  cases h with
  | all => decide
  | columns h => exact h.notMem_outsiders Name.notMem_outsiders

theorem SortColumn.notMem_outsiders {ts : List Token} (h : SortColumn ts) :
    ∀ t ∈ ts, t ∉ outsiders := by
  cases h with
  | mk h hdirection =>
      have hdirections : ∀ word ∈ ["ASC", "DESC"], Token.word word ∉ outsiders := by decide
      simp only [List.forall_mem_cons]
      exact ⟨by simp [outsiders, h], hdirections _ hdirection, by simp⟩

theorem Filter.notMem_outsiders {ts : List Token} (h : Filter ts) : ∀ t ∈ ts, t ∉ outsiders := by
  cases h with
  | mk h => exact List.forall_mem_cons.mpr ⟨by decide, h.notMem_outsiders⟩

theorem Order.notMem_outsiders {ts : List Token} (h : Order ts) : ∀ t ∈ ts, t ∉ outsiders := by
  cases h with
  | mk h =>
      simp only [List.forall_mem_cons]
      exact ⟨by decide, by decide, h.notMem_outsiders SortColumn.notMem_outsiders⟩

theorem Optional.notMem_outsiders {Part : List Token → Prop} {ts : List Token}
    (h : Optional Part ts) (hpart : ∀ {us}, Part us → ∀ t ∈ us, t ∉ outsiders) :
    ∀ t ∈ ts, t ∉ outsiders := by
  cases h with
  | absent => simp
  | present h => exact hpart h

/-- **The words of a limit** stand nowhere else in a SELECT, and neither does the empty name. -/
theorem mem_select_iff {columns table filter order : List Token} (hcolumns : Projection columns)
    (htable : Name table) (hfilter : Optional Filter filter) (horder : Optional Order order)
    (limit : List Token) {t : Token} (ht : t ∈ outsiders) :
    t ∈ Token.word "SELECT" ::
        (columns ++ .word "FROM" :: (table ++ (filter ++ (order ++ limit)))) ↔ t ∈ limit := by
  have hwords : t ≠ .word "SELECT" ∧ t ≠ .word "FROM" := by
    revert t
    decide
  have hin : t ∉ columns ∧ t ∉ table ∧ t ∉ filter ∧ t ∉ order :=
    ⟨fun h => hcolumns.notMem_outsiders t h ht, fun h => htable.notMem_outsiders t h ht,
      fun h => hfilter.notMem_outsiders Filter.notMem_outsiders t h ht,
      fun h => horder.notMem_outsiders Order.notMem_outsiders t h ht⟩
  simp [hwords, hin]

/-- **An offset stands only behind a limit.** -/
theorem Select.limit_of_offset {ts : List Token} (h : Select ts)
    (hoffset : Token.word "OFFSET" ∈ ts) : Token.word "LIMIT" ∈ ts := by
  cases h with
  | mk hcolumns htable hfilter horder hlimit =>
      rw [mem_select_iff hcolumns htable hfilter horder _ (by decide)] at hoffset ⊢
      cases hlimit with
      | absent => cases hoffset
      | present h =>
          cases h
          exact List.mem_cons_self

theorem Select.emptyName_notMem {ts : List Token} (h : Select ts) : Token.name "" ∉ ts := by
  cases h with
  | mk hcolumns htable hfilter horder hlimit =>
      rw [mem_select_iff hcolumns htable hfilter horder _ (by decide)]
      cases hlimit with
      | absent => simp
      | present h =>
          obtain ⟨⟨-, -⟩, hoffset⟩ := h
          cases hoffset with
          | absent => simp
          | present h =>
              obtain ⟨⟨-, -⟩⟩ := h
              simp

end Grammar

/-! ## Clauses -/

theorem Clause.significant_tokens (clause : Clause) :
    significant clause.tokens = .word clause.word :: significant clause.body := by
  by_cases hbody : clause.body = []
  · rw [tokens, if_pos hbody, hbody]
    rfl
  · rw [tokens_of_body_ne_nil hbody]
    rfl

theorem Clause.significant_trail (clauses : List Clause) :
    significant (trail clauses) =
      clauses.flatMap fun clause => .word clause.word :: significant clause.body := by
  induction clauses with
  | nil => rfl
  | cons clause clauses ih =>
      rw [List.flatMap_cons, ← ih, ← significant_tokens, ← significant_append]
      rfl

open Grammar

/-- The name is not empty and has no backtick. -/
def Identifier.IsProper (name : String) : Prop := name ≠ "" ∧ IsPlain name

instance (name : String) : Decidable (Identifier.IsProper name) :=
  inferInstanceAs (Decidable (name ≠ "" ∧ Identifier.IsPlain name))

/-! ## Conditions -/

theorem Leaf.expression {l : Leaf} (h : l.column ≠ "") : Expression (significant l.tokens) := by
  have hoperator : l.comparison.lexeme ∈ operators := by
    cases l.comparison <;> decide
  rw [significant_tokens]
  exact .comparison (.name h) hoperator (.literal l.value.isLiteral_token)

theorem Condition.expression_joinTokens (connective : Connective) {parts : List (List Token)}
    (h : ∀ part ∈ parts, Expression (significant part)) (hne : parts ≠ []) :
    Expression (significant (joinTokens connective parts)) := by
  have hword : connective.word ∈ ["AND", "OR"] := by
    cases connective <;> decide
  have hparts : ∀ part ∈ (parts.map parenthesized).map significant, Expression part := by
    rw [List.map_map, List.forall_mem_map]
    intro part hpart
    rw [Function.comp_apply, significant_parenthesized]
    exact .parenthesized (h part hpart)
  rw [joinTokens, significant_intercalate]
  refine intercalate_of_forall id ?_ hparts (by simpa using hne)
  intro ts us hts hus
  rw [List.append_assoc]
  exact .combined hts hword hus

/-- **The text of a condition is an expression,** where its columns have names. -/
theorem Condition.expression {depth : Nat} {c : Condition} {text : String}
    (hproper : ∀ l ∈ c.leaves, Identifier.IsProper l.column) (h : bodyAt depth c = .ok text)
    (hne : text ≠ "") : Expression (significant c.tokens) := by
  induction c using Condition.induction generalizing depth text with
  | empty => exact absurd ((text_eq_empty_iff h).mpr (.inl rfl)) hne
  | leaf l => exact Leaf.expression (hproper l (by simp)).1
  | fields leaves =>
      match leaves with
      | [] => exact absurd ((text_eq_empty_iff h).mpr (.inr rfl)) hne
      | [l] => exact Leaf.expression (hproper l (by simp)).1
      | l :: m :: ls =>
          refine expression_joinTokens .and (List.forall_mem_map.mpr ?_) (by simp)
          intro leaf hleaf
          exact Leaf.expression (hproper leaf hleaf).1
  | group connective operands ih =>
      obtain ⟨-, hoperands, parts, hparts, -⟩ := (bodyAt_group_eq_ok_iff ..).mp h
      rw [tokens_group]
      refine expression_joinTokens connective (List.forall_mem_map.mpr ?_)
        (by simpa using hoperands)
      intro c hc
      obtain ⟨part, hpart, hpartne⟩ := exists_text_of_mem hparts hc
      refine ih c hc ?_ hpart hpartne
      intro l hl
      refine hproper l ?_
      rw [leaves_group]
      exact List.mem_flatMap.mpr ⟨c, hc, hl⟩

namespace Statement

/-- A condition adds a WHERE clause, or nothing. -/
theorem optional_filter {c : Condition} {clause : String}
    (hproper : ∀ l ∈ c.leaves, Identifier.IsProper l.column) (h : c.whereClause = .ok clause) :
    Optional Filter (significant (Clause.trail (filterClauses c))) := by
  obtain ⟨body, hbody, -⟩ := Condition.whereClause_eq_ok_iff.mp h
  have hnil := Condition.tokens_eq_nil_iff (fun l hl => (hproper l hl).2) hbody
  unfold filterClauses
  by_cases hempty : body = ""
  · rw [if_pos (hnil.mpr hempty)]
    exact .absent
  · rw [if_neg (mt hnil.mp hempty), Clause.significant_trail, List.flatMap_singleton]
    exact .present (.mk (Condition.expression hproper hbody hempty))

/-! ## Directives -/

theorem optional_order {columns : List (String × SortDirection)}
    (hproper : ∀ entry ∈ columns, Identifier.IsProper entry.1) :
    Optional Order (significant (Clause.trail
      (if columns = [] then [] else [PostProcess.orderClause columns]))) := by
  by_cases hempty : columns = []
  · rw [if_pos hempty]
    exact .absent
  · rw [if_neg hempty, Clause.significant_trail, List.flatMap_singleton]
    refine .present (.mk (.commaList (List.forall_mem_map.mpr ?_) (by simpa using hempty)))
    intro entry hentry
    have hdirection : entry.2.sql ∈ ["ASC", "DESC"] := by
      cases entry.2 <;> decide
    exact .mk (hproper entry hentry).1 hdirection

theorem count_toString (n : Nat) : Count [.number (toString n)] := by
  have hdigits : ∀ c ∈ Nat.toDigits 10 n, c.isDigit := fun c hc =>
    Nat.isDigit_of_mem_toDigits (by decide) (by decide) hc
  have htext : (toString n).toList = Nat.toDigits 10 n := Nat.toList_repr
  refine .mk ?_ ?_
  · intro hempty
    rw [hempty] at htext
    exact Nat.toDigits_ne_nil htext.symm
  · rw [htext]
    exact List.all_eq_true.mpr hdigits

theorem optional_limit {limit offset : Option Nat} (h : offset ≠ none → limit ≠ none) :
    Optional Limit (significant (Clause.trail
      (limit.toList.map (PostProcess.countClause "LIMIT") ++
        offset.toList.map (PostProcess.countClause "OFFSET")))) := by
  rw [Clause.significant_trail]
  cases limit with
  | none =>
      cases offset with
      | none => exact .absent
      | some m => exact absurd rfl (h (by simp))
  | some n =>
      cases offset with
      | none => exact .present (.mk (count_toString n) .absent)
      | some m => exact .present (.mk (count_toString n) (.present (.mk (count_toString m))))

/-! ## Statements -/

section

variable {table : String} {c : Condition} {columns : List String} {post : PostProcess}

theorem projection_tokens (h : ∀ column ∈ columns, Identifier.IsProper column) :
    Projection (significant (projectionTokens columns)) := by
  unfold projectionTokens
  by_cases hempty : columns = []
  · rw [if_pos hempty]
    exact .all
  · rw [if_neg hempty]
    refine .columns (.commaList (List.forall_mem_map.mpr ?_) (by simpa using hempty))
    intro column hcolumn
    exact .mk (h column hcolumn).1

/-- The tokens of a SELECT, part by part. -/
theorem significant_select :
    significant (Statement.select (.plain table) c columns post).tokens =
      .word "SELECT" :: (significant (projectionTokens columns) ++ .word "FROM" :: ([.name table] ++
        (significant (Clause.trail (filterClauses c)) ++
          (significant (Clause.trail
              (if post.sort = [] then [] else [PostProcess.orderClause post.sort])) ++
            significant (Clause.trail (post.limit.toList.map (PostProcess.countClause "LIMIT") ++
              post.offset.toList.map (PostProcess.countClause "OFFSET"))))))) := by
  have htokens : (Statement.select (.plain table) c columns post).tokens =
      Clause.tokens ⟨"SELECT", projectionTokens columns⟩ ++
        (.space :: Clause.tokens ⟨"FROM", [.name table]⟩ ++
          Clause.trail (filterClauses c ++ post.clauseList)) := rfl
  simp only [htokens, PostProcess.clauseList, Clause.trail_append, significant_append,
    Clause.significant_tokens, Token.space, List.cons_append, significant_blank]
  rfl

variable (htable : Identifier.IsProper table)
  (hcolumns : ∀ column ∈ columns, Identifier.IsProper column)
  (hfilter : ∀ l ∈ c.leaves, Identifier.IsProper l.column)
  (hsort : ∀ entry ∈ post.sort, Identifier.IsProper entry.1)

include htable hcolumns hfilter hsort

theorem lex_select {text : String}
    (h : (Statement.select (.plain table) c columns post).compile = .ok text) :
    lex text.toList = some (Statement.select (.plain table) c columns post).tokens := by
  refine lex_of_compile h ?_
  simp only [names, TableRef.names, List.forall_mem_append, List.forall_mem_map,
    List.forall_mem_singleton]
  exact ⟨⟨⟨htable.2, fun l hl => (hfilter l hl).2⟩, fun name hname => (hcolumns name hname).2⟩,
    fun entry hentry => (hsort entry hentry).2⟩

theorem select_tokens {text : String}
    (h : (Statement.select (.plain table) c columns post).compile = .ok text)
    (hlimit : post.offset ≠ none → post.limit ≠ none) :
    Select (significant (Statement.select (.plain table) c columns post).tokens) := by
  obtain ⟨clause, hclause, -⟩ := selectSql_eq_ok h
  rw [significant_select]
  exact .mk (projection_tokens hcolumns) (.mk htable.1) (optional_filter hfilter hclause)
    (optional_order hsort) (optional_limit hlimit)

/-- **The SELECTs whose text follows the grammar,** where names are names: those that name a limit
with an offset. -/
theorem isSelect_iff {text : String}
    (h : (Statement.select (.plain table) c columns post).compile = .ok text) :
    IsSelect text ↔ (post.offset ≠ none → post.limit ≠ none) := by
  constructor
  · rintro ⟨ts, hlex, hselect⟩ hoffset hlimit
    rw [lex_select htable hcolumns hfilter hsort h, Option.some.injEq] at hlex
    subst hlex
    obtain ⟨clause, hclause, -⟩ := selectSql_eq_ok h
    obtain ⟨m, hm⟩ := Option.ne_none_iff_exists'.mp hoffset
    have hmem {t : Token} (ht : t ∈ outsiders) (limit : List Token) :=
      mem_select_iff (projection_tokens hcolumns) (.mk htable.1) (optional_filter hfilter hclause)
        (optional_order hsort) limit ht
    have htail : significant (Clause.trail
        (post.limit.toList.map (PostProcess.countClause "LIMIT") ++
          post.offset.toList.map (PostProcess.countClause "OFFSET"))) =
        [.word "OFFSET", .number (toString m)] := by
      rw [hlimit, hm, Clause.significant_trail]
      rfl
    -- the offset asks for a limit, and there is none
    rw [significant_select, htail] at hselect
    have hword := hselect.limit_of_offset ((hmem (by decide) _).mpr List.mem_cons_self)
    rw [hmem (by decide)] at hword
    simp at hword
  · intro hlimit
    exact ⟨_, lex_select htable hcolumns hfilter hsort h,
      select_tokens htable hcolumns hfilter hsort h hlimit⟩

/-- **The text of a SELECT follows the grammar.** -/
theorem exists_isSelect (htranslates : ∃ clause, c.whereClause = .ok clause)
    (hlimit : post.offset ≠ none → post.limit ≠ none) :
    ∃ text, (Statement.select (.plain table) c columns post).compile = .ok text ∧
      IsSelect text := by
  obtain ⟨clause, hclause⟩ := htranslates
  obtain ⟨body, hbody, -⟩ := Condition.whereClause_eq_ok_iff.mp hclause
  obtain ⟨text, htext⟩ : ∃ text, selectSql (.plain table) c columns post = .ok text :=
    exists_selectSql_iff.mpr ⟨body, hbody⟩
  exact ⟨text, htext, (isSelect_iff htable hcolumns hfilter hsort htext).mpr hlimit⟩

end

/-- Columns, two comparisons under a combinator, two sort columns, and an offset with a limit. -/
theorem exists_isSelect_clauses :
    let c : Condition := .or [.compare "a" .like (.string "x%"), .compare "b" .lt .null]
    let post : PostProcess := ⟨[("a", .descending), ("b", .ascending)], some 10, some 20⟩
    ∃ text, (Statement.select (.plain "t") c ["a", "b"] post).compile = .ok text ∧
      IsSelect text :=
  exists_isSelect (by decide) (by decide) (by decide) (by decide) ⟨_, rfl⟩ (by decide)

/-- **Texts that do not follow the grammar:** those with an offset and no limit, and those with a
condition on a column whose name has a backtick or is empty. -/
theorem selects_outside_grammar :
    (∃ text, (Statement.select (.plain "t") .empty [] (PostProcess.empty.withOffset 3)).compile =
      .ok text ∧ ¬ IsSelect text) ∧
    (∃ text, (Statement.select (.plain "t") (.compare "a`b" .eq .null) [] .empty).compile =
      .ok text ∧ ¬ IsSelect text) ∧
    ∃ text, (Statement.select (.plain "t") (.compare "" .eq .null) [] .empty).compile =
      .ok text ∧ ¬ IsSelect text := by
  have hoffset : (Statement.select (.plain "t") .empty []
      (PostProcess.empty.withOffset 3)).compile = .ok "SELECT * FROM `t` OFFSET 3" := rfl
  have hbacktick : (Statement.select (.plain "t") (.compare "a`b" .eq .null) [] .empty).compile =
      .ok "SELECT * FROM `t` WHERE `a`b` = NULL" := rfl
  have hempty : (Statement.select (.plain "t") (.compare "" .eq .null) [] .empty).compile =
      .ok "SELECT * FROM `t` WHERE `` = NULL" := rfl
  refine ⟨⟨_, hoffset, ?_⟩, ⟨_, hbacktick, ?_⟩, ⟨_, hempty, ?_⟩⟩
  · rw [isSelect_iff (by decide) (by decide) (by decide) (by decide) hoffset]
    decide
  · -- the last backtick opens a name that does not end
    rintro ⟨ts, hlex, -⟩
    have hnone : lex "SELECT * FROM `t` WHERE `a`b` = NULL".toList = none := by decide +kernel
    rw [hnone] at hlex
    cases hlex
  · rintro ⟨ts, hlex, hselect⟩
    have hname : (lex "SELECT * FROM `t` WHERE `` = NULL".toList).any
        (fun ts => decide (Token.name "" ∈ significant ts)) = true := by decide +kernel
    rw [hlex, Option.any_some, decide_eq_true_eq] at hname
    exact hselect.emptyName_notMem hname

end Statement

end DocumentSql
