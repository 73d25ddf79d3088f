import DocumentSql.Proofs.Statement.Message

/-!
# Cutting a statement into clauses

The clauses that the reader of messages cuts the tokens of a statement into are the clauses of
the statement. This holds whatever the names and values are made of: only words open clauses, and
the words in the body of a clause open none.

* `Message.cutClauses_tokens`: the clauses of a statement are found as they are.
-/

set_option autoImplicit false

namespace DocumentSql

open Lexical

namespace Message

/-! ## Bodies of clauses -/

/-- No token opens a clause. -/
def IsClauseFree (ts : List Token) : Prop := ∀ t ∈ ts, opensClause? t = none

/-- The tokens neither begin nor end with a blank. -/
def IsTrimmed (ts : List Token) : Prop :=
  (∀ t ∈ ts.head?, t.isBlank = false) ∧ ∀ t ∈ ts.getLast?, t.isBlank = false

instance (ts : List Token) : Decidable (IsClauseFree ts) :=
  inferInstanceAs (Decidable (∀ t ∈ ts, opensClause? t = none))

theorem IsClauseFree.append {ts us : List Token} (hts : IsClauseFree ts) (hus : IsClauseFree us) :
    IsClauseFree (ts ++ us) := by
  intro t ht
  rcases List.mem_append.mp ht with ht | ht
  · exact hts t ht
  · exact hus t ht

theorem isClauseFree_intercalate {sep : List Token} (hsep : IsClauseFree sep)
    {parts : List (List Token)} (h : ∀ part ∈ parts, IsClauseFree part) :
    IsClauseFree (sep.intercalate parts) := by
  cases parts with
  | nil =>
      intro t ht
      cases ht
  | cons part parts =>
      rw [intercalate_cons_eq_flatMap]
      refine (h part List.mem_cons_self).append ?_
      intro t ht
      obtain ⟨p, hp, htp⟩ := List.mem_flatMap.mp ht
      exact hsep.append (h p (List.mem_cons_of_mem part hp)) t htp

theorem IsClauseFree.parenthesized {ts : List Token} (h : IsClauseFree ts) :
    IsClauseFree (parenthesized ts) := by
  intro t ht
  simp only [Lexical.parenthesized, List.mem_cons, List.mem_append, List.not_mem_nil,
    or_false] at ht
  rcases ht with rfl | ht | rfl
  · rfl
  · exact h t ht
  · rfl

theorem isTrimmed_parenthesized (ts : List Token) : IsTrimmed (parenthesized ts) := by
  have hlast : (parenthesized ts).getLast? = some .rightParen := by
    rw [parenthesized, ← List.cons_append, List.getLast?_concat]
  constructor
  · simp [parenthesized, Token.leftParen, Token.isBlank]
  · simp [hlast, Token.rightParen, Token.isBlank]

/-- Trimmed tokens with anything between them. -/
theorem IsTrimmed.append {ts us : List Token} (hts : IsTrimmed ts) (hus : IsTrimmed us)
    (htsne : ts ≠ []) (husne : us ≠ []) (mid : List Token) : IsTrimmed (ts ++ (mid ++ us)) := by
  constructor
  · rw [List.head?_append_of_ne_nil _ htsne]
    exact hts.1
  · rw [← List.append_assoc, List.getLast?_append_of_ne_nil _ husne]
    exact hus.2

theorem isTrimmed_intercalate (sep : List Token) {parts : List (List Token)}
    (h : ∀ part ∈ parts, IsTrimmed part ∧ part ≠ []) : IsTrimmed (sep.intercalate parts) := by
  induction parts with
  | nil => constructor <;> simp
  | cons part parts ih =>
      obtain ⟨hpart, hne⟩ := h part List.mem_cons_self
      have hparts := ih fun p hp => h p (List.mem_cons_of_mem part hp)
      cases parts with
      | nil => simpa using hpart
      | cons p ps =>
          have hpne : p ≠ [] := (h p (by simp)).2
          have hrestne : sep.intercalate (p :: ps) ≠ [] := by
            rw [intercalate_cons_eq_flatMap]
            simp [hpne]
          rw [List.intercalate_cons_cons, List.append_assoc]
          exact hpart.append hparts hne hrestne sep

/-- Blanks around trimmed tokens are trimmed off. -/
theorem trim_append {ts : List Token} (h : IsTrimmed ts) {front back : List Token}
    (hfront : ∀ t ∈ front, t.isBlank) (hback : ∀ t ∈ back, t.isBlank) :
    trim (front ++ (ts ++ back)) = ts := by
  by_cases hnil : ts = []
  · have hall : ∀ t ∈ front ++ back, t.isBlank := by
      intro t ht
      rcases List.mem_append.mp ht with ht | ht
      · exact hfront t ht
      · exact hback t ht
    rw [hnil, List.nil_append, trim, List.dropWhile_eq_nil_iff.mpr hall]
    rfl
  · have hhead : ∀ t ∈ (ts ++ back).head?, t.isBlank = false := by
      rw [List.head?_append_of_ne_nil _ hnil]
      exact h.1
    have hlast : ∀ t ∈ ts.reverse.head?, t.isBlank = false := by
      rw [List.head?_reverse]
      exact h.2
    have hreverse : ∀ t ∈ back.reverse, t.isBlank := by
      intro t ht
      exact hback t (List.mem_reverse.mp ht)
    rw [trim, (span_append hfront hhead).2, List.rdropWhile, List.reverse_append,
      (span_append hreverse hlast).2, List.reverse_reverse]

/-! ## Cutting -/

/-- The clause is found by the reader as it is. -/
structure IsCut (clause : Clause) : Prop where
  word : clause.word ∈ clauseWords
  clauseFree : IsClauseFree clause.body
  trimmed : IsTrimmed clause.body

theorem cutClauses_append {ts : List Token} (h : IsClauseFree ts) (us : List Token) :
    cutClauses (ts ++ us) = (ts ++ (cutClauses us).1, (cutClauses us).2) := by
  induction ts with
  | nil => rfl
  | cons t ts ih =>
      have ht : opensClause? t = none := h t List.mem_cons_self
      have hts := ih fun u hu => h u (List.mem_cons_of_mem t hu)
      rw [List.cons_append, cutClauses, ht, hts]
      rfl

theorem cutClauses_word {word : String} (h : word ∈ clauseWords) (ts : List Token) :
    cutClauses (.word word :: ts) =
      ([], ⟨word, trim (cutClauses ts).1⟩ :: (cutClauses ts).2) := by
  rw [cutClauses, opensClause?, if_pos h]

/-- A clause is found in front of clauses that are found after blanks. -/
theorem cutClauses_clause {clause : Clause} (h : IsCut clause) {us back : List Token}
    {clauses : List Clause} (hback : ∀ t ∈ back, t.isBlank)
    (hus : cutClauses us = (back, clauses)) :
    cutClauses (clause.tokens ++ us) = ([], clause :: clauses) := by
  by_cases hnil : clause.body = []
  · have htokens : clause.tokens = [.word clause.word] := by rw [Clause.tokens, if_pos hnil]
    have htrim : trim ([] ++ (clause.body ++ back)) = clause.body :=
      trim_append h.trimmed (by simp) hback
    rw [hnil, List.nil_append, List.nil_append] at htrim
    rw [htokens, List.singleton_append, cutClauses_word h.word, hus, htrim, ← hnil]
  · have hspace : IsClauseFree [Token.space] := by decide
    have hfree : IsClauseFree (.space :: clause.body) := hspace.append h.clauseFree
    have htrim : trim ([.space] ++ (clause.body ++ back)) = clause.body :=
      trim_append h.trimmed (by simp [Token.space, Token.isBlank]) hback
    rw [Clause.tokens_of_body_ne_nil hnil, List.cons_append, cutClauses_word h.word,
      cutClauses_append hfree, hus]
    show ([], (⟨clause.word, trim ([.space] ++ (clause.body ++ back))⟩ : Clause) :: clauses) = _
    rw [htrim]

/-- Clauses after spaces are found, and the first space is left to what stands before them. -/
theorem cutClauses_trail {clauses : List Clause} (h : ∀ clause ∈ clauses, IsCut clause) :
    ∃ back, (∀ t ∈ back, t.isBlank) ∧ cutClauses (Clause.trail clauses) = (back, clauses) := by
  have hspace : IsClauseFree [Token.space] := by decide
  induction clauses with
  | nil => exact ⟨[], by simp, rfl⟩
  | cons clause clauses ih =>
      -- `back` is the space before the next clause, which this one trims off
      obtain ⟨back, hback, hcut⟩ := ih fun c hc => h c (List.mem_cons_of_mem clause hc)
      have hclause := cutClauses_clause (h clause List.mem_cons_self) hback hcut
      refine ⟨[.space], by simp [Token.space, Token.isBlank], ?_⟩
      show cutClauses ([Token.space] ++ clause.tokens ++ Clause.trail clauses) = _
      rw [List.append_assoc, cutClauses_append hspace, hclause]
      rfl

/-- **The clauses of a statement are found as they are.** -/
theorem cutClauses_joined {clauses : List Clause} (h : ∀ clause ∈ clauses, IsCut clause) :
    cutClauses (Clause.joined clauses) = ([], clauses) := by
  cases clauses with
  | nil => rfl
  | cons clause clauses =>
      obtain ⟨back, hback, hcut⟩ :=
        cutClauses_trail fun c hc => h c (List.mem_cons_of_mem clause hc)
      exact cutClauses_clause (h clause List.mem_cons_self) hback hcut

/-! ## The clauses of a statement -/

theorem isTrimmed_singleton {t : Token} (h : t.isBlank = false) : IsTrimmed [t] := by
  constructor <;> simp [h]

theorem isClauseFree_commaList {parts : List (List Token)}
    (h : ∀ part ∈ parts, IsClauseFree part) : IsClauseFree (commaList parts) := by
  refine isClauseFree_intercalate ?_ h
  decide

theorem opensClause?_token (v : Scalar) : opensClause? v.token = none := by
  cases v with
  | null => decide
  | number n => rfl
  | string s => rfl

theorem isBlank_token (v : Scalar) : v.token.isBlank = false := by
  cases v <;> rfl

theorem isClauseFree_leaf (l : Leaf) : IsClauseFree l.tokens := by
  have hlexeme : opensClause? l.comparison.lexeme = none := by
    cases l.comparison <;> decide
  simp [IsClauseFree, Leaf.tokens, hlexeme, opensClause?_token, Token.space]

theorem isTrimmed_leaf (l : Leaf) : IsTrimmed l.tokens := by
  constructor <;> simp [Leaf.tokens, isBlank_token]

theorem isClauseFree_joinTokens (connective : Connective) {parts : List (List Token)}
    (h : ∀ part ∈ parts, IsClauseFree part) :
    IsClauseFree (Condition.joinTokens connective parts) := by
  refine isClauseFree_intercalate ?_ (List.forall_mem_map.mpr ?_)
  · cases connective <;> decide
  · intro ts hts
    exact (h ts hts).parenthesized

theorem isTrimmed_joinTokens (connective : Connective) (parts : List (List Token)) :
    IsTrimmed (Condition.joinTokens connective parts) := by
  refine isTrimmed_intercalate _ (List.forall_mem_map.mpr ?_)
  intro ts _
  exact ⟨isTrimmed_parenthesized ts, by simp [parenthesized]⟩

theorem isClauseFree_leavesTokens (leaves : List Leaf) :
    IsClauseFree (Condition.leavesTokens leaves) := by
  match leaves with
  | [] => simp [Condition.leavesTokens, IsClauseFree]
  | [l] => exact isClauseFree_leaf l
  | l :: m :: ls =>
      refine isClauseFree_joinTokens .and (List.forall_mem_map.mpr ?_)
      intro leaf _
      exact isClauseFree_leaf leaf

/-- **No word of a condition opens a clause.** -/
theorem isClauseFree_condition (c : Condition) : IsClauseFree c.tokens := by
  induction c using Condition.induction with
  | empty => simp [IsClauseFree]
  | leaf l => exact isClauseFree_leaf l
  | fields leaves => exact isClauseFree_leavesTokens leaves
  | group connective operands ih =>
      rw [Condition.tokens_group]
      refine isClauseFree_joinTokens connective (List.forall_mem_map.mpr ?_)
      intro c hc
      exact ih c hc

theorem isTrimmed_condition (c : Condition) : IsTrimmed c.tokens := by
  cases c with
  | empty => constructor <;> simp
  | leaf l => exact isTrimmed_leaf l
  | fields leaves =>
      match leaves with
      | [] => constructor <;> simp [Condition.leavesTokens]
      | [l] => exact isTrimmed_leaf l
      | l :: m :: ls => exact isTrimmed_joinTokens .and _
  | group connective operands =>
      rw [Condition.tokens_group]
      exact isTrimmed_joinTokens connective _

theorem isClauseFree_qualified (column : String × String) :
    IsClauseFree (qualifiedTokens column) := by
  simp [IsClauseFree, qualifiedTokens]

theorem isTrimmed_qualified (column : String × String) : IsTrimmed (qualifiedTokens column) := by
  constructor <;> simp [qualifiedTokens]

theorem isClauseFree_table (table : TableRef) : IsClauseFree table.tokens := by
  have hwords : ∀ words ∈ [["NATURAL", "JOIN"], ["JOIN"], ["ON"]],
      IsClauseFree (spaced (words.map .word)) := by decide
  have hequals : IsClauseFree (spaced [.sign "="]) := by decide
  induction table with
  | plain name => simp [IsClauseFree, TableRef.tokens]
  | natural left right ihleft ihright =>
      exact ihleft.append ((hwords ["NATURAL", "JOIN"] (by simp)).append ihright)
  | equality left right first second ihleft ihright =>
      exact ihleft.append ((hwords ["JOIN"] (by simp)).append (ihright.append
        ((hwords ["ON"] (by simp)).append ((isClauseFree_qualified first).append
          (hequals.append (isClauseFree_qualified second))))))

theorem isTrimmed_table (table : TableRef) : IsTrimmed table.tokens := by
  induction table with
  | plain name => exact isTrimmed_singleton rfl
  | natural left right ihleft ihright =>
      exact ihleft.append ihright left.tokens_ne_nil right.tokens_ne_nil _
  | equality left right first second ihleft ihright =>
      have hon := (isTrimmed_qualified first).append (isTrimmed_qualified second)
        (by simp [qualifiedTokens]) (by simp [qualifiedTokens]) (spaced [.sign "="])
      have hright := ihright.append hon right.tokens_ne_nil (by simp [qualifiedTokens])
        (spaced [.word "ON"])
      exact ihleft.append hright left.tokens_ne_nil (by simp [right.tokens_ne_nil])
        (spaced [.word "JOIN"])

theorem isClauseFree_nameTokens (names : List String) : IsClauseFree (nameTokens names) := by
  refine isClauseFree_commaList (List.forall_mem_map.mpr ?_)
  intro name _
  simp [IsClauseFree]

theorem isTrimmed_nameTokens (names : List String) : IsTrimmed (nameTokens names) := by
  refine isTrimmed_intercalate _ (List.forall_mem_map.mpr ?_)
  intro name _
  exact ⟨isTrimmed_singleton rfl, by simp⟩

theorem isClauseFree_valueTokens (values : List Scalar) : IsClauseFree (valueTokens values) := by
  refine isClauseFree_commaList (List.forall_mem_map.mpr ?_)
  intro value _
  simp [IsClauseFree, opensClause?_token]

theorem isCut_set (entries : List (String × Scalar)) :
    IsCut ⟨"SET", commaList (entries.map assignmentTokens)⟩ := by
  have hword : "SET" ∈ clauseWords := by decide
  refine ⟨hword, isClauseFree_commaList (List.forall_mem_map.mpr ?_),
    isTrimmed_intercalate _ (List.forall_mem_map.mpr ?_)⟩
  · intro entry _
    simp [IsClauseFree, assignmentTokens, spaced, opensClause?_token, Token.space]
  · intro entry _
    refine ⟨?_, by simp [assignmentTokens]⟩
    constructor <;> simp [assignmentTokens, spaced, isBlank_token]

theorem isCut_order {columns : List (String × SortDirection)} (hne : columns ≠ []) :
    IsCut (PostProcess.orderClause columns) := by
  have hword : "ORDER" ∈ clauseWords := by decide
  have hby : IsClauseFree [.word "BY", .space] := by decide
  have hfree : IsClauseFree (commaList (columns.map PostProcess.sortTokens)) := by
    refine isClauseFree_commaList (List.forall_mem_map.mpr ?_)
    intro entry _
    have hdirection : opensClause? (.word entry.2.sql) = none := by
      cases entry.2 <;> decide
    simp [IsClauseFree, PostProcess.sortTokens, hdirection, Token.space]
  have htrimmed : IsTrimmed (commaList (columns.map PostProcess.sortTokens)) := by
    refine isTrimmed_intercalate _ (List.forall_mem_map.mpr ?_)
    intro entry _
    refine ⟨?_, by simp [PostProcess.sortTokens]⟩
    constructor <;> simp [PostProcess.sortTokens]
  have hcolumns : commaList (columns.map PostProcess.sortTokens) ≠ [] := by
    obtain ⟨entry, rest, rfl⟩ := List.exists_cons_of_ne_nil hne
    exact commaList_ne_nil (by simp [PostProcess.sortTokens]) _
  have hkeyword : IsTrimmed [Token.word "BY"] := isTrimmed_singleton rfl
  exact ⟨hword, hby.append hfree, hkeyword.append htrimmed (by simp) hcolumns [.space]⟩

theorem isCut_count {word : String} (h : word ∈ clauseWords) (n : Nat) :
    IsCut (PostProcess.countClause word n) :=
  ⟨h, by simp [IsClauseFree, PostProcess.countClause], isTrimmed_singleton rfl⟩

theorem isCut_clauseList (p : PostProcess) : ∀ clause ∈ p.clauseList, IsCut clause := by
  intro clause hclause
  rcases PostProcess.mem_clauseList hclause with ⟨hne, rfl⟩ | ⟨n, rfl | rfl⟩
  · exact isCut_order hne
  · exact isCut_count (by decide) n
  · exact isCut_count (by decide) n

theorem isCut_filterClauses (c : Condition) :
    ∀ clause ∈ Statement.filterClauses c, IsCut clause := by
  have hword : "WHERE" ∈ clauseWords := by decide
  unfold Statement.filterClauses
  by_cases hnil : c.tokens = []
  · simp [hnil]
  · rw [if_neg hnil, List.forall_mem_singleton]
    exact ⟨hword, isClauseFree_condition c, isTrimmed_condition c⟩

theorem isCut_projection (columns : List String) :
    IsCut ⟨"SELECT", Statement.projectionTokens columns⟩ := by
  have hword : "SELECT" ∈ clauseWords := by decide
  unfold Statement.projectionTokens
  by_cases hnil : columns = []
  · rw [if_pos hnil]
    exact ⟨hword, by decide, isTrimmed_singleton rfl⟩
  · rw [if_neg hnil]
    exact ⟨hword, isClauseFree_nameTokens columns, isTrimmed_nameTokens columns⟩

theorem isCut_table {word : String} (h : word ∈ clauseWords) (table : TableRef) :
    IsCut ⟨word, table.tokens⟩ :=
  ⟨h, isClauseFree_table table, isTrimmed_table table⟩

theorem isCut_target (table : TableRef) (columns : List String) :
    IsCut ⟨"INSERT", .word "INTO" :: .space ::
      (table.tokens ++ parenthesized (nameTokens columns))⟩ := by
  have hword : "INSERT" ∈ clauseWords := by decide
  have hinto : IsClauseFree [.word "INTO", .space] := by decide
  have hkeyword : IsTrimmed [Token.word "INTO"] := isTrimmed_singleton rfl
  have hfree := (isClauseFree_table table).append (isClauseFree_nameTokens columns).parenthesized
  exact ⟨hword, hinto.append hfree, hkeyword.append (isTrimmed_parenthesized _) (by simp)
    (by simp [parenthesized]) (.space :: table.tokens)⟩

theorem isCut_clauses (s : Statement) : ∀ clause ∈ s.clauses, IsCut clause := by
  cases s with
  | insert table row =>
      have hword : "VALUES" ∈ clauseWords := by decide
      have hvalues : IsCut ⟨"VALUES", parenthesized (valueTokens row.values)⟩ :=
        ⟨hword, (isClauseFree_valueTokens _).parenthesized, isTrimmed_parenthesized _⟩
      simp only [Statement.clauses, List.forall_mem_cons, List.not_mem_nil, false_imp_iff,
        implies_true, and_true]
      exact ⟨isCut_target table row.columns, hvalues⟩
  | select table condition columns post =>
      simp only [Statement.clauses, List.forall_mem_cons, List.forall_mem_append]
      exact ⟨isCut_projection columns, isCut_table (by decide) table,
        isCut_filterClauses condition, isCut_clauseList post⟩
  | update table condition row =>
      simp only [Statement.clauses, List.forall_mem_cons]
      exact ⟨isCut_table (by decide) table, isCut_set row.entries, isCut_filterClauses condition⟩
  | delete table condition =>
      have hdelete : IsCut ⟨"DELETE", []⟩ :=
        ⟨by decide, by simp [IsClauseFree], by simp, by simp⟩
      simp only [Statement.clauses, List.forall_mem_cons]
      exact ⟨hdelete, isCut_table (by decide) table, isCut_filterClauses condition⟩

/-- **The clauses of a statement are found as they are.** -/
theorem cutClauses_tokens (s : Statement) : cutClauses s.tokens = ([], s.clauses) :=
  cutClauses_joined (isCut_clauses s)

end Message

end DocumentSql
