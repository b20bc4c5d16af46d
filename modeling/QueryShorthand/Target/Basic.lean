import QueryShorthand.Value.Sql

namespace QueryShorthand

structure Target where
  dialect : Dialect := .mysql
  tablePrefix : Text := []
  deriving DecidableEq, Repr

namespace Target

def tableName (t : Target) (table : Text) : Compiled :=
  if table = [] then .error (.emptyName .table)
  else .ok (t.dialect.quoteName (t.tablePrefix ++ table))

end Target

structure Context where
  target : Target := {}
  params : Parameters := .empty

namespace Context

def dialect (ctx : Context) : Dialect := ctx.target.dialect

def quoteName (ctx : Context) (name : Text) : Text := ctx.dialect.quoteName name

def quoteText (ctx : Context) (t : Text) : Text := ctx.dialect.quoteText t

end Context

end QueryShorthand
