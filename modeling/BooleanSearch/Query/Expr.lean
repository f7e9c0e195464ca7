import BooleanSearch.Query.Literal

/-!
# Query expressions

A query combines terms by negation, conjunction, disjunction and proximity.  The distance of a
proximity is whatever the query gave; only a non-negative whole number lets it match.
-/

namespace BooleanSearch.Query

/-- A query. -/
inductive Expr
  | literal (term : Literal)
  | not (child : Expr)
  | and (left right : Expr)
  | or (left right : Expr)
  | near (left right : Expr) (distance : Value)
  deriving Inhabited

namespace Expr

/-- Whether an expression is put into parentheses as an operand. -/
def isGrouped : Expr → Bool
  | .and _ _ => true
  | .or _ _ => true
  | _ => false

/-- A written operand, in parentheses if it has to be. -/
def group (grouped : Bool) (text : String) : String :=
  if grouped then "(" ++ text ++ ")" else text

/-- An expression as a query writes it. -/
def render : Expr → String
  | .literal term => term.render
  | .not child => "NOT " ++ group child.isGrouped child.render
  | .and left right =>
    group left.isGrouped left.render ++ " AND " ++ group right.isGrouped right.render
  | .or left right =>
    group left.isGrouped left.render ++ " OR " ++ group right.isGrouped right.render
  | .near left right distance =>
    "NEAR(" ++ left.render ++ ", " ++ right.render ++ ", " ++ distance.display ++ ")"

/-- The terms of an expression, from left to right. -/
def literals : Expr → List Literal
  | .literal term => [term]
  | .not child => child.literals
  | .and left right => left.literals ++ right.literals
  | .or left right => left.literals ++ right.literals
  | .near left right _ => left.literals ++ right.literals

/-- The terms that do not stand below a negation. -/
def positiveLiterals : Expr → List Literal
  | .literal term => [term]
  | .not _ => []
  | .and left right => left.positiveLiterals ++ right.positiveLiterals
  | .or left right => left.positiveLiterals ++ right.positiveLiterals
  | .near left right _ => left.positiveLiterals ++ right.positiveLiterals

/-- Whether two expressions have the same shape, the same terms and equal distances. -/
def same : Expr → Expr → Bool
  | .literal left, .literal right => left == right
  | .not left, .not right => same left right
  | .and left right, .and otherLeft otherRight => same left otherLeft && same right otherRight
  | .or left right, .or otherLeft otherRight => same left otherLeft && same right otherRight
  | .near left right distance, .near otherLeft otherRight otherDistance =>
    same left otherLeft && same right otherRight && distance.same otherDistance
  | _, _ => false

instance : BEq Expr := ⟨same⟩

/-- An expression as plain data. -/
def toValue : Expr → Value
  | .literal term => term.toValue
  | .not child => .dict [(.text "type", .text "not"), (.text "child", child.toValue)]
  | .and left right =>
    .dict [(.text "type", .text "and"), (.text "left", left.toValue), (.text "right", right.toValue)]
  | .or left right =>
    .dict [(.text "type", .text "or"), (.text "left", left.toValue), (.text "right", right.toValue)]
  | .near left right distance =>
    .dict [(.text "type", .text "near"), (.text "left", left.toValue),
      (.text "right", right.toValue), (.text "distance", distance)]

end Expr

end BooleanSearch.Query
