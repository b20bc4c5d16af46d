import QueryShorthand.Text.Basic

namespace QueryShorthand.Join

inductive Kind where
  | inner
  | left
  | right
  | leftOuter
  | rightOuter
  | cross
  deriving DecidableEq, Repr

namespace Kind

def symbol : Kind → Text
  | inner => "-".toList
  | left => "<".toList
  | right => ">".toList
  | leftOuter => "<<".toList
  | rightOuter => ">>".toList
  | cross => "*".toList

def keyword : Kind → Text
  | inner => "JOIN".toList
  | left => "LEFT JOIN".toList
  | right => "RIGHT JOIN".toList
  | leftOuter => "LEFT OUTER JOIN".toList
  | rightOuter => "RIGHT OUTER JOIN".toList
  | cross => "CROSS JOIN".toList

def all : List Kind := [inner, left, right, leftOuter, rightOuter, cross]

def symbols : List Text := all.map symbol

def ofSymbol? (s : Text) : Option Kind := all.find? fun k => k.symbol == s

theorem ofSymbol?_symbol (k : Kind) : ofSymbol? k.symbol = some k := by
  cases k <;> rfl

end Kind

end QueryShorthand.Join
