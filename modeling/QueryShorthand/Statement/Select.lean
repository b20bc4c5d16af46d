import QueryShorthand.Condition.Compile
import QueryShorthand.Condition.Reader
import QueryShorthand.Join.Compile
import QueryShorthand.Join.Reader
import QueryShorthand.Statement.Names

namespace QueryShorthand

namespace Select

structure Item where
  operand : Operand
  label : Option Text

inductive OrderKey where
  | column (c : Column)
  | condition (c : Condition)

structure OrderItem where
  key : OrderKey
  descending : Bool

end Select

structure Select where
  context : Context
  items : List Select.Item
  distinct : Bool := false
  tables : Option Join := none
  /-- Kept apart from `tables`, which may be set later or anew. -/
  subqueries : Bindings Compiled := .empty
  presets : Preset.Registry := .empty
  condition : Option Condition := none
  grouping : List Operand := []
  having : Option Condition := none
  order : List Select.OrderItem := []
  limit : Option Nat := none
  /-- Counts only together with a limit. -/
  offset : Option Nat := none

namespace Select

/-- The letters of `AS` in either case, the long s among them. -/
def isAs (a s : Char) : Bool := (a == 'a' || a == 'A') && (s == 's' || s == 'S' || s == 'ſ')

/-- A label: a name, whose first letter may also be a long s or a Kelvin sign, since these are
letters of the alphabet in another case. -/
def labelName? : Text → Option Text
  | c :: r =>
    if c = 'ſ' ∨ c = '\u212A' then if r.all isWordChar then some (c :: r) else none
    else Name.whole? true (c :: r)
  | [] => none

def labelRest? (t : Text) : Option Text :=
  match t.head?.any isBlank, t.trimStart with
  | true, a :: s :: r =>
    if isAs a s && r.head?.any isBlank then labelName? (Text.trimStart r) else none
  | _, _ => none

/-- An item cut at the first place where a label follows. -/
def splitLabel? : Text → Option (Text × Text)
  | [] => none
  | c :: r =>
    match labelRest? r with
    | some label => some ([c], label)
    | none => (splitLabel? r).map fun p => (c :: p.1, p.2)

/-- An operand of the select list, where wildcards are allowed and auto references are not. -/
def operandOf (t : Text) : Except Error Operand := do
  match ← Column.read? t with
  | some c => if c.isWildcard then return .column c else Operand.read t
  | none =>
    let o ← Operand.read t
    if o.isAuto then throw (.operand t)
    return o

def Item.read (t : Text) : Except Error Item :=
  match splitLabel? t with
  | some (operand, label) => do return ⟨← operandOf operand.trim, some label⟩
  | none => do return ⟨← operandOf t.trim, none⟩

def groupItem (t : Text) : Except Error Operand := do
  match ← Operand.read t with
  | .column c => return .column c
  | .call name args => return .call name args
  | _ => throw (.operand t)

/-- An order item: `<` (the default) or `>` in front of a column or a condition. -/
def OrderItem.read (t : Text) : Except Error OrderItem := do
  let (descending, rest) : Bool × Text := match t.trim with
    | '>' :: r => (true, r)
    | '<' :: r => (false, r)
    | t => (false, t)
  let rest := rest.trim
  let byCondition : Except Error OrderItem := do
    let c ← Condition.read rest
    if c.isEmpty then throw (.emptyName .orderColumn)
    return ⟨.condition c, descending⟩
  match ← Column.read? rest with
  | some c => if c.isWildcard then byCondition else return ⟨.column c, descending⟩
  | none => byCondition

def start (target : Target) (columns : Text) : Except Error Select := do
  let items ← (← Token.commaList columns).mapM Item.read
  if items.isEmpty then throw (.emptyName .column)
  return { context := { target }, items }

def withDistinct (s : Select) : Select := { s with distinct := true }

/-- The presets that tables set from now on may use. -/
def withPresets (s : Select) (presets : Preset.Registry) : Select := { s with presets }

/-- Registers a sub-query for the tables, whether they are set already or not. -/
def withSubquery (s : Select) (name : Text) (sql : Compiled) : Select :=
  { s with
    tables := s.tables.map (·.withSubquery name sql)
    subqueries := s.subqueries.insert name sql }

def withTables (s : Select) (source : Text) : Except Error Select := do
  let join ← Join.read ⟨s.context.target, s.presets⟩ source
  return { s with tables := some { join with subqueries := s.subqueries } }

def withCondition (s : Select) (source : Text) : Except Error Select := do
  return { s with condition := some (← Condition.read source) }

def withGrouping (s : Select) (columns : Text) : Except Error Select := do
  return { s with grouping := ← (← Token.commaList columns).mapM groupItem }

def withHaving (s : Select) (source : Text) : Except Error Select := do
  return { s with having := some (← Condition.read source) }

def withOrder (s : Select) (items : Text) : Except Error Select := do
  return { s with order := ← (← Token.commaList items).mapM OrderItem.read }

def withLimit (s : Select) (length : Nat) : Select := { s with limit := some length }

def withOffset (s : Select) (offset : Nat) : Select := { s with offset := some offset }

def Item.sql (ctx : Context) (i : Item) : Compiled := do
  let sql ← i.operand.sql ctx
  match i.label with
  | some label => return sql ++ " AS ".toList ++ ctx.quoteName label
  | none => return sql

def OrderKey.sql (ctx : Context) : OrderKey → Compiled
  | column c => .ok (c.sql ctx)
  | condition c => do
    match ← c.sql ctx with
    | some sql => return sql
    | none => throw (.malformedClip c.source)

def OrderItem.sql (ctx : Context) (i : OrderItem) : Compiled := do
  let key ← i.key.sql ctx
  return key ++ if i.descending then " DESC".toList else " ASC".toList

def listSql {α : Type} (sql : α → Compiled) (items : List α) : Except Error (Option Text) :=
  if items.isEmpty then .ok none
  else (items.mapM sql).map fun parts => some (Text.joined ", ".toList parts)

def tablesSql (s : Select) : Except Error (Option Text) :=
  match s.tables with
  | some join => (join.sql s.context).map some
  | none => .ok none

def conditionSql (s : Select) : Except Error (Option Text) :=
  Statement.conditionSql s.context s.condition

def havingSql (s : Select) : Except Error (Option Text) :=
  Statement.conditionSql s.context s.having

def limitSql (s : Select) : Option Text :=
  s.limit.map fun length => s.context.dialect.limit (s.offset.getD 0) length

def sql (s : Select) : Compiled := do
  let items ← s.items.mapM (·.sql s.context)
  let tables ← s.tablesSql
  let condition ← s.conditionSql
  let grouping ← listSql (·.sql s.context) s.grouping
  let having ← s.havingSql
  let order ← listSql (·.sql s.context) s.order
  return "SELECT ".toList ++ (if s.distinct then "DISTINCT ".toList else [])
    ++ Text.joined ", ".toList items
    ++ Statement.clause "FROM".toList tables
    ++ Statement.clause "WHERE".toList condition
    ++ Statement.clause "GROUP BY".toList grouping
    ++ Statement.clause "HAVING".toList having
    ++ Statement.clause "ORDER BY".toList order
    ++ (match s.limitSql with
      | some limit => ' ' :: limit
      | none => [])

end Select

end QueryShorthand
