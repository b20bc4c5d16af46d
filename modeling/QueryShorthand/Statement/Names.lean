import QueryShorthand.Condition.Compile
import QueryShorthand.Operand.Column
import QueryShorthand.Token.List

/-!
Lists of bare column names, and clauses that may be absent.
-/

namespace QueryShorthand.Statement

/-- A column name without qualifier and path. -/
def columnName (t : Text) : Except Error Text := do
  match ← Column.read? t with
  | some c => if c.isPlain && !c.isWildcard then return c.name else throw (.operand t)
  | none => throw (.operand t)

def columnNames (t : Text) : Except Error (List Text) := do
  (← Token.commaList t).mapM columnName

def clause (keyword : Text) : Option Text → Text
  | some sql => ' ' :: (keyword ++ ' ' :: sql)
  | none => []

def conditionSql (ctx : Context) (c : Option Condition) : Except Error (Option Text) :=
  match c with
  | some c => c.sql ctx
  | none => .ok none

end QueryShorthand.Statement
