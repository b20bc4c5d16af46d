import QueryShorthand.Json.Printer
import QueryShorthand.Value.Basic

/-!
Values as SQL. This is the only place where a bound value becomes SQL text.
-/

namespace QueryShorthand.Value

def bit (b : Bool) : Text := if b then ['1'] else ['0']

/-- Arrays and documents are quoted JSON; a nested statement stands in parentheses. -/
def sql (d : Dialect) : Value → Compiled
  | null => .ok "NULL".toList
  | bool b => .ok (bit b)
  | int n => .ok (Text.ofInt n.toInt)
  | float x => if x.isFinite then .ok x.text else .error (.nonFinite x.text)
  | text t => .ok (d.quoteText t)
  | array items => (array items).toJson.map fun j => d.quoteText j.written
  | json j => .ok (d.quoteText j.written)
  | statement s => s.sql.map fun t => '(' :: (t ++ [')'])

def patternText : Value → Compiled
  | text t => .ok t
  | int n => .ok (Text.ofInt n.toInt)
  | float x => .ok x.text
  | bool b => .ok (bit b)
  | v => do throw (.operand (← v.toJson).written)

end QueryShorthand.Value
