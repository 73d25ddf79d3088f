import DocumentSql.Proofs.Condition.Formula
import DocumentSql.Proofs.Condition.Tokens

/-!
# The text of a condition says what the condition says

A condition has a meaning of its own: a three-valued truth, given the values of its comparisons.
The text of its WHERE clause is read as a formula with the same comparisons from left to right
and the same truth, whatever the values of the comparisons are. The comparisons are told apart by
their place, so that the same comparison may even have two values in two places.

* `Condition.isSaidBy_of_body`: the text is spelled as a formula that expresses the condition.
* `Condition.exists_formula_of_whereClause`: the text is read as the condition is meant.
-/

set_option autoImplicit false

namespace DocumentSql

open Lexical

/-! ## The truth of a condition -/

namespace Condition

mutual

/-- The truth of a condition whose comparisons have the values `ρ first`, `ρ (first + 1)` and
so on from left to right. -/
def truth (ρ : Nat → Truth) (first : Nat) : Condition → Truth
  | .empty => .true
  | .group connective operands => connective.combine (truthsOf ρ first operands)
  | .leaf _ => ρ first
  | .fields leaves => Connective.and.combine ((List.range' first leaves.length).map ρ)

/-- The truths of conditions whose comparisons stand one after the other. -/
def truthsOf (ρ : Nat → Truth) (first : Nat) : List Condition → List Truth
  | [] => []
  | c :: rest => truth ρ first c :: truthsOf ρ (first + c.leaves.length) rest

end

theorem truthsOf_map_leaf (leaves : List Leaf) (ρ : Nat → Truth) (first : Nat) :
    truthsOf ρ first (leaves.map leaf) = (List.range' first leaves.length).map ρ := by
  induction leaves generalizing first with
  | nil => rfl
  | cons l ls ih =>
      rw [List.map_cons, truthsOf, List.length_cons, List.range'_succ, List.map_cons, ← ih]
      rfl

/-- Comparisons side by side are true together. -/
theorem truth_fields (leaves : List Leaf) (ρ : Nat → Truth) (first : Nat) :
    (fields leaves).truth ρ first = (group .and (leaves.map leaf)).truth ρ first := by
  rw [truth, truth, truthsOf_map_leaf]

end Condition

/-! ## Operands of one connective -/

namespace Formula

/-- The truths of formulas whose comparisons stand one after the other. -/
def truthsOf (ρ : Nat → Truth) (first : Nat) : List Formula → List Truth
  | [] => []
  | e :: rest => e.truth ρ first :: truthsOf ρ (first + e.leaves.length) rest

/-- The formula of operands, as it is read from left to right. -/
def joined (connective : Connective) (e : Formula) (es : List Formula) : Formula :=
  es.foldl (.combine connective) e

theorem leaves_joined (connective : Connective) (e : Formula) (es : List Formula) :
    (joined connective e es).leaves = (e :: es).flatMap leaves := by
  induction es generalizing e with
  | nil => simp [joined]
  | cons d es ih =>
      show (joined connective (.combine connective e d) es).leaves = _
      rw [ih]
      simp [leaves]

theorem truth_joined (connective : Connective) (e : Formula) (es : List Formula)
    (ρ : Nat → Truth) (first : Nat) :
    (joined connective e es).truth ρ first = connective.combine (truthsOf ρ first (e :: es)) := by
  -- `joined` takes the operands from the left and `combine` from the right
  induction es generalizing e with
  | nil => exact (connective.truth_neutral _).symm
  | cons d es ih =>
      calc (joined connective e (d :: es)).truth ρ first
          = (joined connective (.combine connective e d) es).truth ρ first := rfl
        _ = connective.combine (truthsOf ρ first (.combine connective e d :: es)) := ih _
        _ = connective.combine (truthsOf ρ first (e :: d :: es)) := by
          simp only [truthsOf, truth, leaves, List.length_append, Connective.combine,
            List.foldr_cons, connective.truth_assoc, Nat.add_assoc]

/-! ## The reader on joined operands -/

/-- The tokens are read as `e`, whatever stands around them. -/
def ReadsAs (ts : List Token) (e : Formula) : Prop :=
  ∃ (frame : Frame) (x : Formula), frame.close x = e ∧
    ∀ outer rest, operandDue .start outer (ts ++ rest) = operandRead frame outer x rest

theorem operandRead_word (frame : Frame) (outer : List Frame) (connective : Connective)
    (e : Formula) (ts : List Token) :
    operandRead frame outer e (.word connective.word :: ts) =
      operandDue (frame.push connective e) outer ts := by
  cases connective <;> rfl

theorem operandDue_parenthesized {ts : List Token} {e : Formula} (h : ReadsAs ts e)
    (frame : Frame) (outer : List Frame) (rest : List Token) :
    operandDue frame outer (parenthesized ts ++ rest) = operandRead frame outer e rest := by
  obtain ⟨inner, x, rfl, hread⟩ := h
  calc operandDue frame outer (parenthesized ts ++ rest)
      = operandDue .start (frame :: outer) (ts ++ (Token.rightParen :: rest)) := by
        simp [parenthesized, Token.leftParen, operandDue]
    _ = operandRead inner (frame :: outer) x (Token.rightParen :: rest) := hread _ _
    _ = operandRead frame outer (inner.close x) rest := rfl

end Formula

/-- Only the connective stands before the next operand. -/
def Frame.IsOf (frame : Frame) : Connective → Prop
  | .and => frame.disjunction = none
  | .or => frame.conjunction = none

namespace Frame

theorem isOf_start (connective : Connective) : start.IsOf connective := by
  cases connective <;> rfl

theorem IsOf.push {frame : Frame} {connective : Connective} (h : frame.IsOf connective)
    (e : Formula) : (frame.push connective e).IsOf connective := by
  cases connective with
  | and => exact h
  | or => rfl

theorem IsOf.close_push {frame : Frame} {connective : Connective} (h : frame.IsOf connective)
    (e d : Formula) :
    (frame.push connective e).close d = .combine connective (frame.close e) d := by
  cases connective with
  | and =>
      have hnone : frame.disjunction = none := h
      simp [Frame.push, close, conjoin, hnone]
  | or => rfl

end Frame

namespace Formula

/-- The operands that follow a first one, read up to the last of them. -/
theorem operandRead_operands (connective : Connective) {parts : List (List Token)}
    {es : List Formula} (h : List.Forall₂ ReadsAs parts es) {frame : Frame}
    (hframe : frame.IsOf connective) (e : Formula) :
    ∃ (frame' : Frame) (x : Formula), frame'.close x = joined connective (frame.close e) es ∧
      ∀ outer rest,
        operandRead frame outer e
            ((parts.flatMap fun part => .word connective.word :: parenthesized part) ++ rest) =
          operandRead frame' outer x rest := by
  induction h generalizing frame e with
  | nil => exact ⟨frame, e, rfl, fun outer rest => rfl⟩
  | @cons part d parts es hpart hrest ih =>
      -- `e` is pushed onto the frame, and `d` is the operand read last
      obtain ⟨frame', x, hclose, hread⟩ := ih (hframe.push e) d
      refine ⟨frame', x, ?_, ?_⟩
      · rw [hclose, hframe.close_push]
        rfl
      · intro outer rest
        rw [List.flatMap_cons, List.cons_append, List.cons_append, operandRead_word,
          List.append_assoc, operandDue_parenthesized hpart, hread]

/-- **Operands of one connective are read as the formula they form.** -/
theorem readsAs_joined (connective : Connective) {part : List Token} {e : Formula}
    (hpart : ReadsAs part e) {parts : List (List Token)} {es : List Formula}
    (h : List.Forall₂ ReadsAs parts es) :
    ReadsAs (parenthesized part ++
        parts.flatMap fun part => .word connective.word :: parenthesized part)
      (joined connective e es) := by
  obtain ⟨frame, x, hclose, hread⟩ :=
    operandRead_operands connective h (Frame.isOf_start connective) e
  refine ⟨frame, x, hclose, ?_⟩
  intro outer rest
  rw [List.append_assoc, operandDue_parenthesized hpart, hread]

end Formula

/-! ## Conditions -/

theorem Condition.significant_joinTokens (connective : Connective) (part : List Token)
    (parts : List (List Token)) :
    significant (joinTokens connective (part :: parts)) =
      parenthesized (significant part) ++
        (parts.map significant).flatMap fun p => .word connective.word :: parenthesized p := by
  have hsep : significant connective.tokens = [.word connective.word] := rfl
  rw [joinTokens, significant_intercalate, hsep, List.map_cons, List.map_cons,
    intercalate_cons_eq_flatMap, significant_parenthesized]
  simp [List.flatMap_map, significant_parenthesized]

theorem Comparison.ofToken?_lexeme (comparison : Comparison) :
    ofToken? comparison.lexeme = some comparison := by
  cases comparison <;> rfl

/-- **A comparison is read as it is written.** -/
theorem Leaf.readsAs_tokens (l : Leaf) :
    Formula.ReadsAs (significant l.tokens) (.compare l.written) := by
  have hleaf : WrittenLeaf.ofTokens? (.name l.column) l.comparison.lexeme l.value.token =
      some l.written := by
    simp [WrittenLeaf.ofTokens?, Comparison.ofToken?_lexeme, Literal.ofToken?_token, written]
  refine ⟨.start, .compare l.written, rfl, ?_⟩
  intro outer rest
  rw [l.significant_tokens]
  simp [Formula.operandDue, hleaf]

/-- The formula has the comparisons of the condition, and its truth. -/
structure Formula.Expresses (e : Formula) (c : Condition) : Prop where
  leaves : e.leaves = c.leaves.map Leaf.written
  truth : ∀ ρ first, e.truth ρ first = c.truth ρ first

namespace Formula.Expresses

variable {e : Formula} {c : Condition} {es : List Formula} {cs : List Condition}

theorem length_leaves (h : e.Expresses c) : e.leaves.length = c.leaves.length := by
  rw [h.leaves, List.length_map]

theorem truthsOf_eq (h : List.Forall₂ Formula.Expresses es cs) (ρ : Nat → Truth) (first : Nat) :
    Formula.truthsOf ρ first es = Condition.truthsOf ρ first cs := by
  induction h generalizing first with
  | nil => rfl
  | cons hhead htail ih =>
      rw [Formula.truthsOf, Condition.truthsOf, hhead.truth, hhead.length_leaves, ih]

theorem flatMap_leaves (h : List.Forall₂ Formula.Expresses es cs) :
    es.flatMap Formula.leaves = (cs.flatMap Condition.leaves).map Leaf.written := by
  induction h with
  | nil => rfl
  | cons hhead htail ih =>
      rw [List.flatMap_cons, List.flatMap_cons, List.map_append, hhead.leaves, ih]

/-- **Formulas of the operands form a formula of the group.** -/
theorem group (connective : Connective) (he : e.Expresses c)
    (h : List.Forall₂ Formula.Expresses es cs) :
    (Formula.joined connective e es).Expresses (.group connective (c :: cs)) where
  leaves := by
    rw [Formula.leaves_joined, Condition.leaves_group, flatMap_leaves (.cons he h)]
  truth ρ first := by
    rw [Formula.truth_joined, truthsOf_eq (.cons he h)]
    rfl

end Formula.Expresses

namespace Condition

/-- The tokens of a condition are read as a formula that expresses it. -/
def IsReadAs (c : Condition) (e : Formula) : Prop :=
  Formula.ReadsAs (significant c.tokens) e ∧ e.Expresses c

theorem isReadAs_leaf (l : Leaf) : (leaf l).IsReadAs (.compare l.written) :=
  ⟨l.readsAs_tokens, ⟨rfl, fun _ _ => rfl⟩⟩

/-- **A group is read as the formula of its operands.** -/
theorem isReadAs_group (connective : Connective) {c : Condition} {e : Formula}
    (he : c.IsReadAs e) {cs : List Condition} {es : List Formula}
    (h : List.Forall₂ IsReadAs cs es) :
    (group connective (c :: cs)).IsReadAs (Formula.joined connective e es) := by
  have hexpress : List.Forall₂ Formula.Expresses es cs := (h.imp fun _ _ hce => hce.2).flip
  have hread : List.Forall₂ Formula.ReadsAs ((cs.map tokens).map significant) es := by
    rw [List.map_map, List.forall₂_map_left_iff]
    exact h.imp fun _ _ hce => hce.1
  refine ⟨?_, he.2.group connective hexpress⟩
  rw [tokens_group, List.map_cons, significant_joinTokens]
  exact Formula.readsAs_joined connective he.1 hread

/-- Comparisons side by side are read as a group of them would be. -/
theorem isReadAs_fields {leaves : List Leaf} (hne : leaves ≠ []) :
    ∃ e, (fields leaves).IsReadAs e := by
  match leaves with
  | [] => exact absurd rfl hne
  | [l] =>
      have htruth : ∀ t : Truth, Connective.and.combine [t] = t := Connective.and.truth_neutral
      exact ⟨.compare l.written, l.readsAs_tokens, ⟨rfl, fun ρ first => (htruth (ρ first)).symm⟩⟩
  | l :: m :: ls =>
      have hleaves : List.Forall₂ IsReadAs ((m :: ls).map leaf)
          ((m :: ls).map fun l => .compare l.written) := by
        rw [List.forall₂_map_left_iff, List.forall₂_map_right_iff, List.forall₂_same]
        exact fun l _ => isReadAs_leaf l
      obtain ⟨hread, hexpress⟩ := isReadAs_group .and (isReadAs_leaf l) hleaves
      have htokens : (fields (l :: m :: ls)).tokens =
          (group .and ((l :: m :: ls).map leaf)).tokens := by
        rw [tokens_group, List.map_map]
        rfl
      refine ⟨_, htokens ▸ hread, ?_, ?_⟩
      · rw [hexpress.leaves]
        simp [List.flatMap_map]
      · intro ρ first
        rw [truth_fields]
        exact hexpress.truth ρ first

/-- **A condition that has a text is read as a formula that expresses it.** -/
theorem exists_isReadAs {depth : Nat} {c : Condition} {text : String}
    (h : bodyAt depth c = .ok text) (hne : text ≠ "") : ∃ e, c.IsReadAs e := by
  have hdepth := depth_le_of_bodyAt h
  induction c using Condition.induction generalizing depth text with
  | empty =>
      rw [bodyAt_empty hdepth] at h
      cases h
      exact absurd rfl hne
  | leaf l => exact ⟨_, isReadAs_leaf l⟩
  | fields leaves =>
      rw [bodyAt_fields hdepth] at h
      refine isReadAs_fields ?_
      rintro rfl
      cases h
      exact hne rfl
  | group connective operands ih =>
      obtain ⟨-, hoperands, parts, hparts, -⟩ := (bodyAt_group_eq_ok_iff ..).mp h
      -- an operand with an empty text would have been refused
      have hread : ∀ c ∈ operands, ∃ e, c.IsReadAs e := by
        intro c hc
        obtain ⟨part, hpart, hnonempty⟩ := exists_text_of_mem hparts hc
        exact ih c hc hpart hnonempty (depth_le_of_bodyAt hpart)
      obtain ⟨es, hes⟩ := exists_forall₂ hread
      cases hes with
      | nil => exact absurd rfl hoperands
      | cons he hes => exact ⟨_, isReadAs_group connective he hes⟩

/-- The text says what the condition says. It is spelled by tokens, with nothing but spaces
between them, that are read from the first to the last as a formula with the comparisons of the
condition from left to right and its truth. Where no column has a backtick, the text is cut into
these tokens. -/
def IsSaidBy (c : Condition) (text : String) : Prop :=
  ∃ e : Formula, e.Expresses c ∧
    (∃ ts, text.toList = spell ts ∧ OnlySpaces ts ∧
      Formula.operandDue .start [] (significant ts) = some e) ∧
    ((∀ l ∈ c.leaves, Identifier.IsPlain l.column) → Formula.read? text = some e)

/-- **A text of a condition says what the condition says,** whatever its columns are. -/
theorem isSaidBy_of_body {c : Condition} {text : String} (h : c.body = .ok text)
    (hne : text ≠ "") : c.IsSaidBy text := by
  obtain ⟨e, ⟨frame, x, hclose, hread⟩, hexpress⟩ := exists_isReadAs h hne
  have hend := hread [] []
  rw [List.append_nil] at hend
  have hformula : Formula.operandDue .start [] (significant c.tokens) = some e := by
    simp [hend, Formula.operandRead, hclose]
  have hspell : text.toList = spell c.tokens := toList_of_bodyAt h
  refine ⟨e, hexpress, ⟨c.tokens, hspell, c.onlySpaces_tokens, hformula⟩, fun hplain => ?_⟩
  have hlex : lex text.toList = some c.tokens := by
    rw [hspell, lex_spell (readable_tokens hplain)]
  simp [Formula.read?, hlex, hformula]

/-- The text behind the word of a WHERE clause is the text of the condition. -/
theorem body_of_whereClause {c : Condition} {b : String}
    (h : c.whereClause = .ok ("WHERE " ++ b)) : c.body = .ok b ∧ b ≠ "" := by
  obtain ⟨text, hbody, htext⟩ := whereClause_eq_ok_iff.mp h
  by_cases hempty : text = ""
  · have hlength := congrArg String.length htext
    simp [hempty] at hlength
  · rw [if_neg hempty] at htext
    have heq : b = text := by
      have hlists := congrArg String.toList htext
      simpa [String.toList_inj] using hlists
    exact heq ▸ ⟨hbody, hempty⟩

/-- **The text of a WHERE clause means what the condition means.** Read as a formula from its
first to its last character, it has the comparisons of the condition from left to right, and the
truth of the condition whatever the comparisons are worth. -/
theorem exists_formula_of_whereClause (c : Condition) (b : String)
    (hplain : ∀ l ∈ c.leaves, Identifier.IsPlain l.column)
    (h : c.whereClause = .ok ("WHERE " ++ b)) :
    ∃ e, Formula.read? b = some e ∧ e.leaves = c.leaves.map Leaf.written ∧
      ∀ ρ : Nat → Truth, e.truth ρ 0 = c.truth ρ 0 := by
  obtain ⟨hbody, hne⟩ := body_of_whereClause h
  obtain ⟨e, hexpress, -, hread⟩ := isSaidBy_of_body hbody hne
  exact ⟨e, hread hplain, hexpress.leaves, fun ρ => hexpress.truth ρ 0⟩

/-- A value that looks like the end of its operand stays a value. -/
theorem exists_formula_of_whereClause_nested :
    let c : Condition := .or [.fields [⟨"a b", .eq, .string "x) OR (\" \\"⟩, ⟨"c", .like, .null⟩],
      .and [.leaf ⟨"d", .gte, .number (.integer (-12))⟩]]
    let b := "((`a b` = \"x) OR (\\\" \\\\\") AND (`c` LIKE NULL)) OR ((`d` >= -12))"
    (∀ l ∈ c.leaves, Identifier.IsPlain l.column) ∧ c.whereClause = .ok ("WHERE " ++ b) ∧
      ∃ e, Formula.read? b = some e ∧ e.leaves = c.leaves.map Leaf.written ∧
        ∀ ρ : Nat → Truth, e.truth ρ 0 = c.truth ρ 0 :=
  ⟨by decide, rfl, exists_formula_of_whereClause _ _ (by decide) rfl⟩

end Condition

end DocumentSql
