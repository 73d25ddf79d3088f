import DocumentSql.Condition.Basic

/-!
# Conditions from documents

The condition a JSON document describes. An object is either one combinator key with an array
of documents, or columns with what they are compared to. Combinators nest at most
`deepestCondition` levels. The first fault from left to right is reported.
-/

set_option autoImplicit false

namespace DocumentSql

/-- The comparison that a column's value in a document describes: an object with one operator,
or a scalar the column equals. -/
def Leaf.ofJson (column : String) : Json → Except SchemaFault Leaf
  | .object [(key, operand)] =>
      match Comparison.ofKey? key with
      | none => .error (.unknownOperator key)
      | some comparison => do
          let value ← Scalar.ofJson operand
          .ok ⟨column, comparison, value⟩
  | .object members => .error (.notOneOperator column (.object members))
  | v => do
      let value ← Scalar.ofJson v
      .ok ⟨column, .eq, value⟩

/-- The comparisons that the members of an object describe. -/
def Leaf.ofMembers : List (String × Json) → Except SchemaFault (List Leaf)
  | [] => .ok []
  | (column, value) :: rest => do
      let leaf ← Leaf.ofJson column value
      let leaves ← Leaf.ofMembers rest
      .ok (leaf :: leaves)

/-- A key that is reserved for operators. -/
def isOperatorKey (key : String) : Bool :=
  match key.toList with
  | '$' :: _ => true
  | _ => false

/-- The key names a combinator. -/
def isCombinatorKey (key : String) : Bool := (Connective.ofKey? key).isSome

namespace Condition

/-- The condition of an object without combinator keys: its members are columns. -/
def ofColumns (members : List (String × Json)) : Except SchemaFault Condition :=
  match members.find? fun member => isOperatorKey member.1 with
  | some (key, _) => .error (.unknownOperator key)
  | none => do
      let leaves ← Leaf.ofMembers members
      .ok (ofLeaves leaves)

mutual

/-- The condition of a document under `depth` combinators. -/
def ofJsonAt (depth : Nat) (v : Json) : Except SchemaFault Condition :=
  if deepestCondition < depth then .error .conditionTooDeep
  else
    match v with
    | .object [(key, operand)] =>
        match Connective.ofKey? key with
        | none => ofColumns [(key, operand)]
        | some connective =>
            match operand with
            | .array [] => .error (.combinatorWithoutOperands key)
            | .array items => do
                let operands ← ofItemsAt (depth + 1) items
                .ok (.group connective operands)
            | _ => .error (.combinatorNotArray key)
    | .object members =>
        if members.any fun member => isCombinatorKey member.1 then
          .error .combinatorNotAlone
        else ofColumns members
    | v => .error (.conditionNotObject v)

/-- The conditions of documents under `depth` combinators. -/
def ofItemsAt (depth : Nat) : List Json → Except SchemaFault (List Condition)
  | [] => .ok []
  | item :: rest => do
      let condition ← ofJsonAt depth item
      let conditions ← ofItemsAt depth rest
      .ok (condition :: conditions)

end

/-- The condition a document describes. -/
def ofJson (v : Json) : Except SchemaFault Condition := ofJsonAt 0 v

end Condition

end DocumentSql
