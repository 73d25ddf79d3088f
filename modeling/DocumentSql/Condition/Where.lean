import DocumentSql.Condition.Basic

/-!
# Conditions as WHERE clauses

The text of a condition in a statement. Every operand of a combinator stands in parentheses, so
that no reader needs a rule of precedence. An operand without a constraint has no text and is
refused, and so are combinators without operands or nested deeper than `deepestCondition`.
-/

set_option autoImplicit false

namespace DocumentSql.Condition

/-- Texts in parentheses with a connective between them. -/
def joinParts (connective : Connective) (parts : List String) : String :=
  Text.joinWith (" " ++ connective.word ++ " ") (parts.map fun part => "(" ++ part ++ ")")

/-- The text of comparisons side by side. -/
def leavesBody : List Leaf → String
  | [] => ""
  | [l] => l.sql
  | leaves => joinParts .and (leaves.map Leaf.sql)

mutual

/-- The text of a condition under `depth` combinators; empty when there is no constraint. -/
def bodyAt (depth : Nat) (c : Condition) : Except SchemaFault String :=
  if deepestCondition < depth then .error .conditionTooDeep
  else
    match c with
    | .empty => .ok ""
    | .group connective [] => .error (.combinatorWithoutOperands connective.key)
    | .group connective operands => do
        let parts ← partsAt connective (depth + 1) operands
        .ok (joinParts connective parts)
    | .leaf l => .ok l.sql
    | .fields leaves => .ok (leavesBody leaves)

/-- The texts of the operands of a combinator, under `depth` combinators. -/
def partsAt (connective : Connective) (depth : Nat) :
    List Condition → Except SchemaFault (List String)
  | [] => .ok []
  | c :: rest => do
      let part ← bodyAt depth c
      if part.isEmpty then .error (.emptyOperand connective.key)
      else do
        let parts ← partsAt connective depth rest
        .ok (part :: parts)

end

/-- The text of a condition. -/
def body (c : Condition) : Except SchemaFault String := bodyAt 0 c

/-- The WHERE clause of a condition; empty when there is no constraint. -/
def whereClause (c : Condition) : Except SchemaFault String := do
  let text ← c.body
  .ok (if text.isEmpty then "" else "WHERE " ++ text)

end DocumentSql.Condition
