import QueryShorthand.Statement.Names
import QueryShorthand.Upsert

/-!
INSERT statements. Each column takes the value bound under its own name.
-/

namespace QueryShorthand

structure Insert where
  context : Context
  table : Text
  columns : List Text
  replace : Bool := false
  /-- The columns to overwrite where a row exists already. -/
  onDuplicate : List Text := []
  /-- The unique columns that tell whether a row exists. -/
  conflictTarget : List Text := []

namespace Insert

def start (target : Target) (table columns : Text) : Except Error Insert := do
  let _ ← target.tableName table
  let columns ← Statement.columnNames columns
  if columns.isEmpty then throw (.emptyName .column)
  return { context := { target }, table, columns }

def withReplace (s : Insert) : Insert := { s with replace := true }

def withOnDuplicate (s : Insert) (columns : Text) : Except Error Insert := do
  return { s with onDuplicate := ← Statement.columnNames columns }

def withConflictTarget (s : Insert) (columns : Text) : Except Error Insert := do
  return { s with conflictTarget := ← Statement.columnNames columns }

/-- The value of a column; without one it is null. -/
def boundSql (ctx : Context) (column : Text) : Compiled :=
  ((ctx.params.get? column).getD .null).sql ctx.dialect

def sql (s : Insert) : Compiled := do
  let d := s.context.dialect
  if s.replace && !d.hasReplace then throw (.unsupported "REPLACE".toList d)
  let values ← s.columns.mapM (boundSql s.context)
  let table ← s.context.target.tableName s.table
  let verb := if s.replace then "REPLACE".toList else "INSERT".toList
  let insert := verb ++ " INTO ".toList ++ table ++ " (".toList
    ++ Text.joined ", ".toList (s.columns.map d.quoteName) ++ ") VALUES (".toList
    ++ Text.joined ", ".toList values ++ [')']
  if s.onDuplicate.isEmpty then return insert
  let upsert ← d.upsert s.conflictTarget s.onDuplicate
  return insert ++ ' ' :: upsert

end Insert

end QueryShorthand
