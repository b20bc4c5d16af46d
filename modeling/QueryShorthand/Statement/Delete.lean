import QueryShorthand.Condition.Reader
import QueryShorthand.Statement.Names

/-! DELETE statements. A condition of its own takes the place of the one by columns; without either,
every row goes. -/

namespace QueryShorthand

structure Delete where
  context : Context
  table : Text
  /-- Compares each column with the value bound under its name. -/
  byColumns : Option Condition
  condition : Option Condition := none

namespace Delete

def columnsText (columns : List Text) : Text :=
  Text.joined [','] (columns.map fun c => Text.quoted backtick c ++ ['=', '?'])

def start (target : Target) (table columns : Text) : Except Error Delete := do
  let _ ← target.tableName table
  let columns ← Statement.columnNames columns
  if columns.isEmpty then return { context := { target }, table, byColumns := none }
  return { context := { target }, table, byColumns := some (← Condition.read (columnsText columns))
    }

def withCondition (s : Delete) (source : Text) : Except Error Delete := do
  return { s with condition := some (← Condition.read source) }

def conditionSql (s : Delete) : Except Error (Option Text) :=
  Statement.conditionSql s.context s.condition

def sql (s : Delete) : Compiled := do
  let condition ← match s.condition with
    | some c => c.sql s.context
    | none => Statement.conditionSql s.context s.byColumns
  let table ← s.context.target.tableName s.table
  return "DELETE FROM ".toList ++ table ++ Statement.clause "WHERE".toList condition

end Delete

end QueryShorthand
