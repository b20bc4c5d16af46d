import QueryShorthand.Text.Basic

namespace QueryShorthand

inductive Operator where
  | equal
  | notEqual
  | membership
  | contains
  | startsWith
  | endsWith
  | regexp
  | jsonKeyExists
  | jsonPathExists
  | jsonContains
  | jsonSearch
  | between
  | notBetween
  | greater
  | less
  | greaterOrEqual
  | lessOrEqual
  deriving DecidableEq, Repr

namespace Operator

def symbol : Operator → Text
  | equal => "=".toList
  | notEqual => "!=".toList
  | membership => "|=".toList
  | contains => "*=".toList
  | startsWith => "^=".toList
  | endsWith => "$=".toList
  | regexp => "#=".toList
  | jsonKeyExists => "@=".toList
  | jsonPathExists => ":=".toList
  | jsonContains => "~=".toList
  | jsonSearch => "&=".toList
  | between => "><".toList
  | notBetween => "<>".toList
  | greater => ">".toList
  | less => "<".toList
  | greaterOrEqual => ">=".toList
  | lessOrEqual => "<=".toList

def all : List Operator :=
  [equal, notEqual, membership, contains, startsWith, endsWith, regexp, jsonKeyExists,
    jsonPathExists, jsonContains, jsonSearch, between, notBetween, greater, less, greaterOrEqual,
    lessOrEqual]

def symbols : List Text := all.map symbol

def ofSymbol? (s : Text) : Option Operator := all.find? fun o => o.symbol == s

/-- The operator that says the same once its operands have changed sides. -/
def swapped : Operator → Operator
  | greater => less
  | less => greater
  | greaterOrEqual => lessOrEqual
  | lessOrEqual => greaterOrEqual
  | o => o

theorem ofSymbol?_symbol (o : Operator) : ofSymbol? o.symbol = some o := by
  cases o <;> rfl

end Operator

end QueryShorthand
