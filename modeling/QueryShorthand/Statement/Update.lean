import QueryShorthand.Condition.Reader
import QueryShorthand.Number.Decimal
import QueryShorthand.Statement.Names

/-!
UPDATE statements. An expression is `col++`, `col--`, `col=value`, `col OP= value` with one of the
operators `+ - * / &`, or a bare `col` for the value bound under its name; others are dropped.
-/

namespace QueryShorthand

namespace Update

inductive NewValue where
  | number (text : Text)
  | operand (o : Operand)

structure Assignment where
  column : Text
  /-- The operator between the old value and the new one. -/
  op : Option Char
  value : NewValue

end Update

structure Update where
  context : Context
  table : Text
  assignments : List Update.Assignment
  condition : Option Condition := none

namespace Update

def step? (t : Text) : Option Assignment :=
  match Name.read? false t with
  | some (column, r) =>
    match r.trimStart with
    | ['+', '+'] => some ⟨column, some '+', .number ['1']⟩
    | ['-', '-'] => some ⟨column, some '-', .number ['1']⟩
    | _ => none
  | none => none

def bare? (t : Text) : Option Assignment :=
  (Name.whole? false t).map fun column => ⟨column, none, .operand (.parameter column)⟩

def isArithmetic (c : Char) : Bool := c == '-' || c == '+' || c == '*' || c == '/' || c == '&'

def isFiniteNumber (t : Text) : Bool := (readFloat? Decimal.toBinary64 t).any Binary64.isFinite

def newValue? (column t : Text) : Option NewValue :=
  if isFiniteNumber t then some (.number t)
  else
    match Operand.read t with
    | .error _ => none
    | .ok .auto => some (.operand (.parameter column))
    | .ok (.array _) => none
    | .ok (.malformedArray _) => none
    | .ok o => some (.operand o)

def assignmentSign? : Text → Option (Option Char × Text)
  | '=' :: r => some (none, r)
  | c :: '=' :: r => if isArithmetic c then some (some c, r) else none
  | _ => none

def assignment? (t : Text) : Option Assignment := do
  let (column, r) ← Name.read? true t
  let (op, r) ← assignmentSign? r.trimStart
  if r = [] then none
  return ⟨column, op, ← newValue? column r.trim⟩

def Assignment.read? (t : Text) : Option Assignment :=
  let t := t.trim
  (step? t).or ((bare? t).or (assignment? t))

def start (target : Target) (table expressions : Text) : Except Error Update := do
  let _ ← target.tableName table
  let assignments := (← Token.commaList expressions).filterMap Assignment.read?
  if assignments.isEmpty then throw (.emptyUpdate table)
  return { context := { target }, table, assignments }

def withCondition (s : Update) (source : Text) : Except Error Update := do
  return { s with condition := some (← Condition.read source) }

def NewValue.sql (ctx : Context) : NewValue → Compiled
  | number t => .ok t
  | operand o => o.sql ctx

def Assignment.sql (ctx : Context) (a : Assignment) : Compiled := do
  let column := ctx.quoteName a.column
  let value ← a.value.sql ctx
  match a.op with
  | some op => return column ++ " = ".toList ++ column ++ ' ' :: op :: ' ' :: value
  | none => return column ++ " = ".toList ++ value

def conditionSql (s : Update) : Except Error (Option Text) :=
  Statement.conditionSql s.context s.condition

def sql (s : Update) : Compiled := do
  let sets ← s.assignments.mapM (·.sql s.context)
  let table ← s.context.target.tableName s.table
  let condition ← s.conditionSql
  return "UPDATE ".toList ++ table ++ " SET ".toList ++ Text.joined ", ".toList sets
    ++ Statement.clause "WHERE".toList condition

end Update

end QueryShorthand
