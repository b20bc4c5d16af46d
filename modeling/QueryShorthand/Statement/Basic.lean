import QueryShorthand.Statement.Delete
import QueryShorthand.Statement.Insert
import QueryShorthand.Statement.Select
import QueryShorthand.Statement.Update

namespace QueryShorthand

structure Raw where
  context : Context
  sql : Text

inductive Statement where
  | select (s : Select)
  | insert (s : Insert)
  | update (s : Update)
  | delete (s : Delete)
  | raw (s : Raw)

namespace Statement

def context : Statement → Context
  | select s => s.context
  | insert s => s.context
  | update s => s.context
  | delete s => s.context
  | raw s => s.context

def params (s : Statement) : Parameters := s.context.params

def target (s : Statement) : Target := s.context.target

def withContext (ctx : Context) : Statement → Statement
  | select s => select { s with context := ctx }
  | insert s => insert { s with context := ctx }
  | update s => update { s with context := ctx }
  | delete s => delete { s with context := ctx }
  | raw s => raw { s with context := ctx }

def withParams (s : Statement) (params : Parameters) : Statement :=
  s.withContext { s.context with params }

def assign (s : Statement) (name : Text) (v : Value) : Statement :=
  s.withParams (s.params.insert name v)

def merge (s : Statement) (values : List (Text × Value)) : Statement :=
  s.withParams (s.params.insertAll values)

def bind (s : Statement) (name : Text) (nested : Nested) : Statement :=
  s.assign name (.statement nested)

def sql : Statement → Compiled
  | select s => s.sql
  | insert s => s.sql
  | update s => s.sql
  | delete s => s.sql
  | raw s => .ok s.sql

end Statement

end QueryShorthand
