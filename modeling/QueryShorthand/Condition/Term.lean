import QueryShorthand.Operand.Basic

/-!
Operands with the values that are bound to their names.
-/

namespace QueryShorthand

inductive Term where
  /-- A column or a function call. -/
  | column (sql : Text)
  | value (v : Value)
  | array (values : List Value)
  | null
  /-- A nested statement in its parentheses. -/
  | statement (sql : Text)
  | malformed (text : Text)

namespace Term

def ofValue (ctx : Context) : Value → Except Error Term
  | .null => .ok null
  | .array values => .ok (array values)
  | .statement s => ((Value.statement s).sql ctx.dialect).map statement
  | v => .ok (value v)

/-- The value bound to a name; a name without one is null. -/
def bound (ctx : Context) (name : Text) : Except Error Term :=
  match ctx.params.get? name with
  | some v => ofValue ctx v
  | none => .ok null

def sql (ctx : Context) : Term → Compiled
  | column sql => .ok sql
  | statement sql => .ok sql
  | value v => v.sql ctx.dialect
  | array values => (Value.array values).sql ctx.dialect
  | null => .ok "NULL".toList
  | malformed t => .error (.arrayText t)

def jsonSql (ctx : Context) : Term → Compiled
  | value v => v.toJson.map fun j => ctx.quoteText j.written
  | null => .ok (ctx.quoteText "null".toList)
  | t => t.sql ctx

end Term

namespace Operand

mutual

/-- Looks up what an operand stands for; an auto reference takes its name from `other`. -/
def term (ctx : Context) : Operand → (other : Operand) → Except Error Term
  | column c, _ => .ok (.column (c.sql ctx))
  | call name args, _ => do
    let args ← argumentsSql ctx args
    return .column (name ++ '(' :: (Text.joined ", ".toList args ++ [')']))
  | parameter name, _ => Term.bound ctx name
  | literal t, _ => .ok (.value (.text t))
  | array values, _ => .ok (.array values)
  | malformedArray t, _ => .ok (.malformed t)
  | null, _ => .ok .null
  | auto, other =>
    match other.column? with
    | some c => Term.bound ctx c.name
    | none => .error .looseAuto

def argumentsSql (ctx : Context) : List Operand → Except Error (List Text)
  | [] => .ok []
  | a :: as => do
    let term ← a.term ctx null
    let sql ← term.sql ctx
    let rest ← argumentsSql ctx as
    return sql :: rest

end

def sql (ctx : Context) (o : Operand) : Compiled := do
  match ← o.term ctx null with
  | .array _ => throw (.operand o.written)
  | term => term.sql ctx

end Operand

end QueryShorthand
