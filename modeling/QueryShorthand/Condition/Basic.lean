import QueryShorthand.Condition.Operator
import QueryShorthand.Operand.Basic

namespace QueryShorthand

/-- `,` binds closer than `|`, as AND does than OR, so no parentheses are needed beyond the written
ones, which `group` keeps. -/
inductive Expr where
  | all (items : List Expr)
  | any (items : List Expr)
  | not (e : Expr)
  | group (e : Expr)
  | flag (o : Operand)
  | compare (left : Operand) (op : Operator) (right : Operand)

/-- A condition that was read from `source`; it may be empty. -/
structure Condition where
  source : Text
  expr : Option Expr

namespace Condition

def isEmpty (c : Condition) : Bool := c.expr.isNone

end Condition

end QueryShorthand
