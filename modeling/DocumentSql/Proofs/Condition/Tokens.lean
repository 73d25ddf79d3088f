import DocumentSql.Proofs.Condition.Body
import DocumentSql.Proofs.Lexical.Layout
import DocumentSql.Proofs.Lexical.Literal

/-!
# The tokens of a condition

The text of a condition as a list of tokens. The list is defined on the condition and not read
from the text: that the text is its spelling is `Condition.toList_of_bodyAt`, and that the text
is cut into these tokens again follows from `Condition.readable_tokens`, for columns without a
backtick.
-/

set_option autoImplicit false

namespace DocumentSql

open Lexical

/-! ## Names -/

namespace Identifier

/-- The name contains no backtick. -/
def IsPlain (name : String) : Prop := backtick ∉ name.toList

instance (name : String) : Decidable (IsPlain name) :=
  inferInstanceAs (Decidable (backtick ∉ name.toList))

theorem toList_quote (name : String) : (quote name).toList = (Token.name name).text := by
  simp [quote, Token.text, backtick]

theorem IsPlain.isValid {name : String} (h : IsPlain name) : (Token.name name).IsValid := h

end Identifier

/-! ## Comparisons -/

/-- The operator of a comparison as a token. -/
def Comparison.lexeme : Comparison → Token
  | .like => .word "LIKE"
  | comparison => .sign comparison.token

theorem Comparison.text_lexeme (comparison : Comparison) :
    comparison.lexeme.text = comparison.token.toList := by
  cases comparison <;> rfl

theorem Comparison.isValid_lexeme (comparison : Comparison) : comparison.lexeme.IsValid := by
  cases comparison with
  | like => exact Token.isValid_word (by decide) (by decide)
  | _ => simp [lexeme, token, Token.IsValid, plainSigns]

namespace Leaf

/-- The tokens of a comparison. -/
def tokens (leaf : Leaf) : List Token :=
  [.name leaf.column, .space, leaf.comparison.lexeme, .space, leaf.value.token]

theorem significant_tokens (leaf : Leaf) :
    significant leaf.tokens = [.name leaf.column, leaf.comparison.lexeme, leaf.value.token] := by
  have hoperator : leaf.comparison.lexeme.isBlank = false := by
    cases leaf.comparison <;> rfl
  have hvalue : leaf.value.token.isBlank = false := by
    cases leaf.value <;> rfl
  simp [tokens, Token.space, hoperator, hvalue]

theorem toList_sql (leaf : Leaf) : leaf.sql.toList = spell leaf.tokens := by
  simp [sql, tokens, Identifier.toList_quote, Comparison.text_lexeme, Scalar.text_token]

theorem onlySpaces_tokens (leaf : Leaf) : OnlySpaces leaf.tokens := by
  have hoperator : leaf.comparison.lexeme.isBlank = false := by
    cases leaf.comparison <;> rfl
  have hvalue : leaf.value.token.isBlank = false := by
    cases leaf.value <;> rfl
  simp [OnlySpaces, tokens, hoperator, hvalue]

theorem readable_tokens {leaf : Leaf} (h : Identifier.IsPlain leaf.column) :
    Readable leaf.tokens := by
  have hvalue : Readable [leaf.value.token] := leaf.value.isValid_token.readable
  have hoperator : Readable [leaf.comparison.lexeme] := leaf.comparison.isValid_lexeme.readable
  exact h.isValid.readable.append_separator isSeparator_space
    (hoperator.append_separator isSeparator_space hvalue)

end Leaf

/-! ## Joined operands -/

namespace Connective

/-- The tokens between two operands. -/
def tokens (connective : Connective) : List Token := spaced [.word connective.word]

theorem isSeparator_tokens (connective : Connective) : IsSeparator connective.tokens := by
  refine isSeparator_words [connective.word] ?_
  cases connective <;> decide

end Connective

namespace Condition

/-- The operands of a connective, each in parentheses. -/
def joinTokens (connective : Connective) (parts : List (List Token)) : List Token :=
  connective.tokens.intercalate (parts.map parenthesized)

theorem toList_joinParts {connective : Connective} {texts : List String}
    {parts : List (List Token)} (h : texts.map String.toList = parts.map spell) :
    (joinParts connective texts).toList = spell (joinTokens connective parts) := by
  refine toList_joinWith_eq_spell ?_ ?_
  · simp [Connective.tokens, spaced]
  · calc (texts.map fun part => "(" ++ part ++ ")").map String.toList
        = (texts.map String.toList).map fun cs => '(' :: (cs ++ [')']) := by simp
      _ = (parts.map spell).map fun cs => '(' :: (cs ++ [')']) := by rw [h]
      _ = (parts.map parenthesized).map spell := by simp [spell_parenthesized]

theorem readable_joinTokens (connective : Connective) {parts : List (List Token)}
    (h : ∀ part ∈ parts, Readable part) : Readable (joinTokens connective parts) := by
  refine readable_intercalate connective.isSeparator_tokens (List.forall_mem_map.mpr ?_)
  intro ts hts
  exact (h ts hts).parenthesized

theorem onlySpaces_joinTokens (connective : Connective) {parts : List (List Token)}
    (h : ∀ part ∈ parts, OnlySpaces part) : OnlySpaces (joinTokens connective parts) := by
  refine onlySpaces_intercalate ?_ (List.forall_mem_map.mpr fun part hpart => ?_)
  · simp [OnlySpaces, Connective.tokens, spaced]
  · exact (h part hpart).parenthesized

/-- The tokens of comparisons side by side. -/
def leavesTokens : List Leaf → List Token
  | [] => []
  | [l] => l.tokens
  | leaves => joinTokens .and (leaves.map Leaf.tokens)

theorem toList_leavesBody (leaves : List Leaf) :
    (leavesBody leaves).toList = spell (leavesTokens leaves) := by
  match leaves with
  | [] => rfl
  | [l] => exact l.toList_sql
  | l :: m :: ls =>
      refine toList_joinParts ?_
      simp [Leaf.toList_sql]

theorem readable_leavesTokens {leaves : List Leaf}
    (h : ∀ l ∈ leaves, Identifier.IsPlain l.column) : Readable (leavesTokens leaves) := by
  match leaves with
  | [] => exact readable_nil
  | [l] => exact Leaf.readable_tokens (h l List.mem_cons_self)
  | l :: m :: ls =>
      refine readable_joinTokens .and (List.forall_mem_map.mpr ?_)
      intro leaf hleaf
      exact Leaf.readable_tokens (h leaf hleaf)

/-! ## Conditions -/

mutual

/-- The tokens of a condition. -/
def tokens : Condition → List Token
  | .empty => []
  | .group connective operands => joinTokens connective (tokensOf operands)
  | .leaf l => l.tokens
  | .fields leaves => leavesTokens leaves

/-- The tokens of each of several conditions. -/
def tokensOf : List Condition → List (List Token)
  | [] => []
  | c :: rest => tokens c :: tokensOf rest

end

theorem tokensOf_eq_map (cs : List Condition) : tokensOf cs = cs.map tokens := by
  induction cs with
  | nil => rfl
  | cons c cs ih => rw [tokensOf, ih, List.map_cons]

@[simp] theorem tokens_empty : tokens .empty = [] := rfl

@[simp] theorem tokens_leaf (l : Leaf) : tokens (.leaf l) = l.tokens := rfl

@[simp] theorem tokens_fields (leaves : List Leaf) :
    tokens (.fields leaves) = leavesTokens leaves := rfl

theorem tokens_group (connective : Connective) (operands : List Condition) :
    tokens (.group connective operands) = joinTokens connective (operands.map tokens) := by
  rw [tokens, tokensOf_eq_map]

/-- **The text of a condition is spelled by its tokens.** -/
theorem toList_of_bodyAt {depth : Nat} {c : Condition} {text : String}
    (h : bodyAt depth c = .ok text) : text.toList = spell c.tokens := by
  have hdepth := depth_le_of_bodyAt h
  induction c using Condition.induction generalizing depth text with
  | empty =>
      rw [bodyAt_empty hdepth] at h
      cases h
      rfl
  | leaf l =>
      rw [bodyAt_leaf hdepth] at h
      cases h
      exact l.toList_sql
  | fields leaves =>
      rw [bodyAt_fields hdepth] at h
      cases h
      exact toList_leavesBody leaves
  | group connective operands ih =>
      obtain ⟨-, -, parts, hparts, rfl⟩ := (bodyAt_group_eq_ok_iff ..).mp h
      rw [tokens_group]
      -- the texts of the operands are spelled one by one, along the relation to them
      refine toList_joinParts ?_
      clear h hdepth
      induction hparts with
      | nil => rfl
      | @cons c part cs parts hpart hrest ihparts =>
          have hhead := ih c List.mem_cons_self hpart.1 (depth_le_of_bodyAt hpart.1)
          have htail := ihparts fun d hd => ih d (List.mem_cons_of_mem c hd)
          rw [List.map_cons, List.map_cons, List.map_cons, hhead, htail]

/-- In the text of a condition only spaces stand between tokens. -/
theorem onlySpaces_tokens (c : Condition) : OnlySpaces c.tokens := by
  induction c using Condition.induction with
  | empty => exact nofun
  | leaf l => exact l.onlySpaces_tokens
  | fields leaves =>
      rw [tokens_fields]
      match leaves with
      | [] => exact nofun
      | [l] => exact l.onlySpaces_tokens
      | l :: m :: ls =>
          exact onlySpaces_joinTokens .and (List.forall_mem_map.mpr fun l _ => l.onlySpaces_tokens)
  | group connective operands ih =>
      rw [tokens_group]
      exact onlySpaces_joinTokens connective (List.forall_mem_map.mpr ih)

/-- **The tokens of a condition can be read back,** whatever its values are. -/
theorem readable_tokens {c : Condition} (h : ∀ l ∈ c.leaves, Identifier.IsPlain l.column) :
    Readable c.tokens := by
  induction c using Condition.induction with
  | empty => exact readable_nil
  | leaf l => exact Leaf.readable_tokens (h l (by simp))
  | fields leaves => exact readable_leavesTokens h
  | group connective operands ih =>
      rw [tokens_group]
      refine readable_joinTokens connective (List.forall_mem_map.mpr ?_)
      intro c hc
      refine ih c hc ?_
      intro l hl
      refine h l ?_
      rw [leaves_group]
      exact List.mem_flatMap.mpr ⟨c, hc, hl⟩

/-- A condition has tokens where its text is not empty. -/
theorem tokens_eq_nil_iff {depth : Nat} {c : Condition} {text : String}
    (hplain : ∀ l ∈ c.leaves, Identifier.IsPlain l.column) (h : bodyAt depth c = .ok text) :
    c.tokens = [] ↔ text = "" := by
  rw [← spell_eq_nil_iff (readable_tokens hplain).1, ← toList_of_bodyAt h,
    String.toList_eq_nil_iff]

/-! ## Empty texts -/

theorem isEmpty_sql (l : Leaf) : l.sql.isEmpty = false := by
  have hne : l.sql.toList ≠ [] := by
    rw [l.toList_sql]
    simp [Leaf.tokens, Token.text]
  simpa [String.toList_eq_nil_iff] using hne

theorem isEmpty_joinParts (connective : Connective) (parts : List String) :
    (joinParts connective parts).isEmpty = parts.isEmpty := by
  cases parts with
  | nil => rfl
  | cons part parts =>
      have hne : (joinParts connective (part :: parts)).toList ≠ [] := by
        rw [joinParts, toList_joinWith, List.map_cons, List.map_cons, intercalate_cons_eq_flatMap]
        simp
      simpa [String.toList_eq_nil_iff] using hne

theorem isEmpty_leavesBody (leaves : List Leaf) : (leavesBody leaves).isEmpty = leaves.isEmpty := by
  match leaves with
  | [] => rfl
  | [l] => exact isEmpty_sql l
  | l :: m :: ls => exact isEmpty_joinParts .and _

end Condition

end DocumentSql
