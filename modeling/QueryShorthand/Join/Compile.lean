import QueryShorthand.Condition.Compile
import QueryShorthand.Join.Basic

namespace QueryShorthand.Join

mutual

/-- The quoted name under which the columns of a source are found; a group goes by its first
source. -/
def Source.reference (target : Target) : Source → Compiled
  | .table _ (some a) => .ok (target.dialect.quoteName a)
  | .table name none => target.tableName name
  | .preset _ a _ => .ok (target.dialect.quoteName a)
  | .group steps => referenceOfFirst target steps

def referenceOfFirst (target : Target) : List Step → Compiled
  | [] => .error (.emptyName .table)
  | .mk _ source _ :: _ => source.reference target

end

def bracketSql (ctx : Context) (first : Text) (source : Source) : Bracket → Compiled
  | .condition c => do
    match ← c.sql ctx with
    | some sql => return " ON ".toList ++ sql
    | none => throw (.bracket (.unconditional c.source))
  | .merged columns =>
    .ok (" USING (".toList ++ Text.joined ", ".toList (columns.map ctx.quoteName) ++ [')'])
  | .equal of columns => do
    let left := match of with
      | some table => ctx.quoteName table
      | none => first
    let right ← source.reference ctx.target
    let pairs := columns.map fun c =>
      left ++ '.' :: (ctx.quoteName c ++ " = ".toList ++ right ++ '.' :: ctx.quoteName c)
    return " ON ".toList ++ Text.joined " AND ".toList pairs

def derived (ctx : Context) (tableAlias sql : Text) : Text :=
  '(' :: (sql ++ ") AS ".toList ++ ctx.quoteName tableAlias)

mutual

def Source.sql (j : Join) (ctx : Context) : Source → Compiled
  | .table name tableAlias =>
    match j.subqueries.get? name, tableAlias with
    | some _, none => .error (.subqueryAlias name)
    | some sql, some a => sql.map (derived ctx a)
    | none, none => ctx.target.tableName name
    | none, some a => (ctx.target.tableName name).map (· ++ " AS ".toList ++ ctx.quoteName a)
  | .preset _ tableAlias preset =>
    match j.presets.get? tableAlias with
    | some p => p.sql.map (derived ctx tableAlias)
    | none => .error (.unknownPreset preset)
  | .group steps => (stepsSql j ctx steps).map fun sql => '(' :: (sql ++ [')'])

def stepsSql (j : Join) (ctx : Context) : List Step → Compiled
  | [] => .error (.emptyName .table)
  | .mk _ source _ :: rest => do
    let first ← source.reference ctx.target
    let sql ← source.sql j ctx
    let more ← restSql j ctx first rest
    return sql ++ more

def restSql (j : Join) (ctx : Context) (first : Text) : List Step → Compiled
  | [] => .ok []
  | .mk kind source bracket :: rest => do
    let sql ← source.sql j ctx
    let matching ← match bracket with
      | some b => bracketSql ctx first source b
      | none => pure []
    let more ← restSql j ctx first rest
    return ' ' :: ((kind.getD .inner).keyword ++ ' ' :: (sql ++ matching ++ more))

end

def sql (ctx : Context) (j : Join) : Compiled := stepsSql j ctx j.steps

end QueryShorthand.Join
