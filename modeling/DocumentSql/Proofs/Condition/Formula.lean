import DocumentSql.Condition.Basic
import DocumentSql.Proofs.Lexical.Literal

/-!
# Formulas and how they are read

What the text of a condition says to a reader who knows nothing of conditions: comparisons
combined by AND and OR, where AND binds tighter and parentheses group. The value of a formula is
three-valued, since a comparison with a missing value is neither true nor false.

The reader goes through the tokens once. It keeps what it has read so far of the innermost
parentheses, and the same for each parenthesis around them that is still open.

* `Formula.read?`: the formula that a whole text is.
-/

set_option autoImplicit false

namespace DocumentSql

open Lexical

/-! ## Truth values -/

/-- The value of a comparison in a row. -/
inductive Truth where
  | false
  | unknown
  | true
deriving DecidableEq

namespace Truth

/-- The truth of two statements together. -/
def and : Truth → Truth → Truth
  | .true, b => b
  | .false, _ => .false
  | .unknown, .false => .false
  | .unknown, _ => .unknown

/-- The truth of one statement or the other. -/
def or : Truth → Truth → Truth
  | .false, b => b
  | .true, _ => .true
  | .unknown, .true => .true
  | .unknown, _ => .unknown

end Truth

namespace Connective

/-- The truth of two operands. -/
def truth : Connective → Truth → Truth → Truth
  | .and => Truth.and
  | .or => Truth.or

/-- The truth of no operands. -/
def neutral : Connective → Truth
  | .and => .true
  | .or => .false

/-- The truth of operands. -/
def combine (connective : Connective) (truths : List Truth) : Truth :=
  truths.foldr connective.truth connective.neutral

theorem truth_assoc (connective : Connective) (a b c : Truth) :
    connective.truth (connective.truth a b) c = connective.truth a (connective.truth b c) := by
  cases connective <;> cases a <;> cases b <;> cases c <;> rfl

theorem truth_neutral (connective : Connective) (a : Truth) :
    connective.truth a connective.neutral = a := by
  cases connective <;> cases a <;> rfl

end Connective

/-! ## Formulas -/

/-- A comparison as far as a text can tell it. -/
structure WrittenLeaf where
  /-- The column. -/
  column : String
  /-- How it is compared. -/
  comparison : Comparison
  /-- What it is compared with. -/
  value : Literal
deriving DecidableEq

/-- A comparison as it can be read. -/
def Leaf.written (leaf : Leaf) : WrittenLeaf := ⟨leaf.column, leaf.comparison, leaf.value.written⟩

/-- A formula of comparisons. -/
inductive Formula where
  | compare (leaf : WrittenLeaf)
  | combine (connective : Connective) (left right : Formula)
deriving DecidableEq

namespace Formula

/-- The comparisons from left to right. -/
def leaves : Formula → List WrittenLeaf
  | .compare leaf => [leaf]
  | .combine _ left right => left.leaves ++ right.leaves

/-- The value of a formula whose comparisons have the values `ρ first`, `ρ (first + 1)` and so
on from left to right. -/
def truth (ρ : Nat → Truth) (first : Nat) : Formula → Truth
  | .compare _ => ρ first
  | .combine connective left right =>
      connective.truth (left.truth ρ first) (right.truth ρ (first + left.leaves.length))

end Formula

/-! ## The reader -/

/-- The comparison that a token stands for. -/
def Comparison.ofToken? : Token → Option Comparison
  | .sign "=" => some .eq
  | .word "LIKE" => some .like
  | .sign "!=" => some .ne
  | .sign "<" => some .lt
  | .sign ">" => some .gt
  | .sign "<=" => some .lte
  | .sign ">=" => some .gte
  | _ => none

/-- The comparison that three tokens are. -/
def WrittenLeaf.ofTokens? : Token → Token → Token → Option WrittenLeaf
  | .name column, operator, value => do
      let comparison ← Comparison.ofToken? operator
      let literal ← Literal.ofToken? value
      some ⟨column, comparison, literal⟩
  | _, _, _ => none

/-- The connective that a word stands for. -/
def Connective.ofWord? (word : String) : Option Connective :=
  if word = "AND" then some .and
  else if word = "OR" then some .or
  else none

/-- What has been read between two parentheses, up to the operand that comes next. -/
structure Frame where
  /-- What stands before the last OR. -/
  disjunction : Option Formula
  /-- What stands between the last OR and the last AND. -/
  conjunction : Option Formula

namespace Frame

/-- Nothing has been read. -/
def start : Frame := ⟨none, none⟩

/-- The conjunction that `e` is the last operand of. -/
def conjoin (frame : Frame) (e : Formula) : Formula :=
  match frame.conjunction with
  | none => e
  | some c => .combine .and c e

/-- The formula that `e` is the last operand of. -/
def close (frame : Frame) (e : Formula) : Formula :=
  match frame.disjunction with
  | none => frame.conjoin e
  | some d => .combine .or d (frame.conjoin e)

/-- What has been read after `e` and a connective. -/
def push (frame : Frame) (connective : Connective) (e : Formula) : Frame :=
  match connective with
  | .and => ⟨frame.disjunction, some (frame.conjoin e)⟩
  | .or => ⟨some (frame.close e), none⟩

end Frame

namespace Formula

mutual

/-- The formula that is read where an operand is due; `outer` are the open parentheses, the
innermost first. -/
def operandDue (frame : Frame) (outer : List Frame) : List Token → Option Formula
  -- a parenthesis opens, and what has been read before it waits
  | .sign "(" :: ts => operandDue .start (frame :: outer) ts
  | t :: operator :: value :: ts =>
      match WrittenLeaf.ofTokens? t operator value with
      | some leaf => operandRead frame outer (.compare leaf) ts
      | none => none
  | _ => none

/-- The formula that is read after the operand `e`. -/
def operandRead (frame : Frame) (outer : List Frame) (e : Formula) : List Token → Option Formula
  -- the text ends, with no parenthesis open
  | [] => if outer.isEmpty then some (frame.close e) else none
  | .word w :: ts =>
      match Connective.ofWord? w with
      | some connective => operandDue (frame.push connective e) outer ts
      | none => none
  -- what has been read in the parentheses is an operand of what waits
  | .sign ")" :: ts =>
      match outer with
      | [] => none
      | enclosing :: outer => operandRead enclosing outer (frame.close e) ts
  | _ => none

end

/-- The formula that a text is, from its first to its last character. -/
def read? (text : String) : Option Formula := do
  let ts ← lex text.toList
  operandDue .start [] (significant ts)

end Formula

end DocumentSql
