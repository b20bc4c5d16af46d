import QueryShorthand.Condition.Basic
import QueryShorthand.Condition.Compare

namespace QueryShorthand

namespace Operand

def compare (ctx : Context) (op : Operator) (negated : Bool) (left right : Operand) : Compiled := do
  let l ← left.term ctx right
  let r ← right.term ctx left
  let l ← l.checked
  let r ← r.checked
  Term.compare ctx op negated l r right.written

/-- An operand as a truth value; null is false, and true when negated. -/
def flag (ctx : Context) (negated : Bool) (o : Operand) : Compiled := do
  match ← o.term ctx null with
  | .null => return Value.bit negated
  | .array _ => throw (.operand o.written)
  | term => return Term.negatedIf ctx negated (← term.sql ctx)

end Operand

namespace Expr

mutual

/-- A negation goes into a flag or a comparison, and around anything else. -/
def sql (ctx : Context) : Expr → Compiled
  | all items => (sqlAll ctx items).map (Text.joined " AND ".toList)
  | any items => (sqlAll ctx items).map (Text.joined " OR ".toList)
  | group e => (e.sql ctx).map fun t => '(' :: (t ++ [')'])
  | flag o => o.flag ctx false
  | compare l op r => Operand.compare ctx op false l r
  | not e =>
    match e with
    | flag o => o.flag ctx true
    | compare l op r => Operand.compare ctx op true l r
    | group e => (e.sql ctx).map ctx.dialect.negate
    | e => (e.sql ctx).map ctx.dialect.negate

def sqlAll (ctx : Context) : List Expr → Except Error (List Text)
  | [] => .ok []
  | e :: es => do
    let t ← e.sql ctx
    let ts ← sqlAll ctx es
    return t :: ts

end

end Expr

namespace Condition

def sql (ctx : Context) (c : Condition) : Except Error (Option Text) :=
  match c.expr with
  | none => .ok none
  | some e => (e.sql ctx).map some

end Condition

end QueryShorthand
