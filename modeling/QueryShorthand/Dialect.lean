import QueryShorthand.Text.Basic

/-!
The fragments of SQL that differ between databases.
-/

namespace QueryShorthand

inductive Dialect where
  | mysql
  | postgres
  | sqlite
  deriving DecidableEq, Repr

namespace Dialect

def name : Dialect → Text
  | mysql => "mysql".toList
  | postgres => "postgres".toList
  | sqlite => "sqlite".toList

def nameQuote : Dialect → Char
  | mysql => '\x60'
  | _ => '"'

def doubled (c : Char) (t : Text) : Text := t.flatMap fun d => if d = c then [c, c] else [d]

def quoteName (d : Dialect) (name : Text) : Text :=
  d.nameQuote :: (doubled d.nameQuote name ++ [d.nameQuote])

def quoteText (d : Dialect) (t : Text) : Text :=
  match d with
  | mysql => '\'' :: (doubled '\'' (doubled '\\' t) ++ ['\''])
  | _ => '\'' :: (doubled '\'' t ++ ['\''])

def negate (d : Dialect) (sql : Text) : Text :=
  match d with
  | mysql => "!(".toList ++ sql ++ [')']
  | _ => "NOT (".toList ++ sql ++ [')']

def matchOperator (d : Dialect) (negated : Bool) : Text :=
  match d, negated with
  | postgres, false => "~".toList
  | postgres, true => "!~".toList
  | _, false => "REGEXP".toList
  | _, true => "NOT REGEXP".toList

def concat (d : Dialect) (parts : List Text) : Text :=
  match d with
  | mysql => "CONCAT(".toList ++ Text.joined ", ".toList parts ++ [')']
  | _ => Text.joined " || ".toList parts

/-- The clause after a LIKE pattern, empty where backslash escapes by default. -/
def escapeClause : Dialect → Text
  | sqlite => " ESCAPE '\\'".toList
  | _ => []

/-- A column read through a JSON path, as a JSON value or, if `scalar`, as plain text. -/
def atPath (d : Dialect) (column path : Text) (scalar : Bool) : Text :=
  match d with
  | postgres =>
    let value :=
      "jsonb_path_query_first(".toList ++ column ++ ", ".toList ++ d.quoteText path ++ [')']
    if scalar then '(' :: (value ++ " #>> '\x7b\x7d')".toList) else value
  | _ => column ++ (if scalar then "->>".toList else "->".toList) ++ d.quoteText path

def extract (d : Dialect) (sql path : Text) : Text :=
  match d with
  | postgres => d.atPath sql path false
  | _ => "JSON_EXTRACT(".toList ++ sql ++ ", ".toList ++ d.quoteText path ++ [')']

def hasJsonFunctions : Dialect → Bool
  | mysql => true
  | _ => false

def hasReplace : Dialect → Bool
  | mysql => true
  | _ => false

def limit (d : Dialect) (offset length : Nat) : Text :=
  if offset = 0 then "LIMIT ".toList ++ Text.ofNat length
  else match d with
    | mysql => "LIMIT ".toList ++ Text.ofNat offset ++ ", ".toList ++ Text.ofNat length
    | _ => "LIMIT ".toList ++ Text.ofNat length ++ " OFFSET ".toList ++ Text.ofNat offset

end Dialect

end QueryShorthand
