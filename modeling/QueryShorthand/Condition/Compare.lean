import QueryShorthand.Condition.Operator
import QueryShorthand.Condition.Term

namespace QueryShorthand.Term

def nullCheck (negated : Bool) (sql : Text) : Text :=
  sql ++ if negated then " IS NOT NULL".toList else " IS NULL".toList

def inWord (negated : Bool) : Text := if negated then "NOT IN".toList else "IN".toList

def negatedIf (ctx : Context) (negated : Bool) (sql : Text) : Text :=
  if negated then ctx.dialect.negate sql else sql

def isNull : Term → Bool
  | null => true
  | _ => false

def valueList (ctx : Context) : List Value → Except Error (List Text)
  | [] => .ok []
  | v :: vs => do
    let sql ← v.sql ctx.dialect
    let rest ← valueList ctx vs
    return sql :: rest

/-- `sql IN(…)`; nothing is in an empty list but null, so that it becomes a null check. -/
def among (ctx : Context) (negated : Bool) (sql : Text) (values : List Value) : Compiled :=
  if values.isEmpty then .ok (nullCheck negated sql)
  else do
    let items ← valueList ctx values
    return sql ++ ' ' :: (inWord negated ++ '(' :: (Text.joined ", ".toList items ++ [')']))

def needsJson (ctx : Context) (op : Operator) : Except Error Unit :=
  if ctx.dialect.hasJsonFunctions then .ok ()
  else .error (.unsupported op.symbol ctx.dialect)

/-- Null on either side makes a null check of the other side. -/
def equality (ctx : Context) (negated : Bool) (l r : Term) : Compiled := do
  let (l, r) := if l.isNull && !r.isNull then (r, l) else (l, r)
  let sql ← l.sql ctx
  match r with
  | null => return nullCheck negated sql
  | array values => among ctx negated sql values
  | r =>
    let other ← r.sql ctx
    return sql ++ (if negated then " <> ".toList else " = ".toList) ++ other

def membership (ctx : Context) (negated : Bool) (l r : Term) : Compiled :=
  match l with
  | column sql =>
    match r with
    | null => .ok (nullCheck negated sql)
    | array values => among ctx negated sql values
    | statement inner => .ok (sql ++ ' ' :: (inWord negated ++ inner))
    | r => do
      let item ← r.sql ctx
      return sql ++ ' ' :: (inWord negated ++ '(' :: (item ++ [')']))
  | l => do
    needsJson ctx .membership
    let document ← l.jsonSql ctx
    let part ← r.jsonSql ctx
    return negatedIf ctx negated
      ("JSON_CONTAINS(".toList ++ document ++ ", ".toList ++ part ++ ", '$') > 0".toList)

def escapePattern : Text → Text
  | [] => []
  | c :: r =>
    if c = '\\' ∨ c = '%' ∨ c = '_' then '\\' :: c :: escapePattern r else c :: escapePattern r

/-- Whether any text may stand before and after the one that is looked for. -/
def wildcards : Operator → Bool × Bool
  | .startsWith => (false, true)
  | .endsWith => (true, false)
  | _ => (true, true)

def pattern (ctx : Context) (op : Operator) (negated : Bool) (l r : Term) : Compiled := do
  let sql ← l.sql ctx
  let before := if (wildcards op).1 then ['%'] else []
  let after := if (wildcards op).2 then ['%'] else []
  let like (p : Text) : Text :=
    sql ++ (if negated then " NOT LIKE ".toList else " LIKE ".toList) ++ p
  match r with
  | null => return nullCheck negated sql
  | value v =>
    let text ← v.patternText
    return like (ctx.quoteText (before ++ escapePattern text ++ after) ++ ctx.dialect.escapeClause)
  | array _ => throw (.arrayPattern op.symbol)
  | r =>
    let other ← r.sql ctx
    let quoted (t : Text) : List Text := if t.isEmpty then [] else [['\'', '%', '\'']]
    return like (ctx.dialect.concat (quoted before ++ other :: quoted after))

def regexp (ctx : Context) (negated : Bool) (l r : Term) : Compiled := do
  let sql ← l.sql ctx
  let other ← r.sql ctx
  return sql ++ ' ' :: (ctx.dialect.matchOperator negated ++ ' ' :: other)

def jsonKeyExists (ctx : Context) (negated : Bool) (l r : Term) : Compiled := do
  needsJson ctx .jsonKeyExists
  let sql ← l.sql ctx
  let keys := "JSON_KEYS(".toList ++ sql ++ [')']
  match r with
  | array values =>
    let j ← (Value.array values).toJson
    return negatedIf ctx negated
      ("JSON_OVERLAPS(".toList ++ keys ++ ", ".toList ++ ctx.quoteText j.written ++ [')'])
  | r =>
    let other ← r.sql ctx
    return nullCheck (!negated)
      ("JSON_SEARCH(".toList ++ keys ++ ", 'one', ".toList ++ other ++ [')'])

def pathText (ctx : Context) : Term → Compiled
  | value (.text p) => if p.head? = some '$' then .ok p else .error (.jsonPath p)
  | value v => do throw (.jsonPath (← v.patternText))
  | t => do throw (.jsonPath (← t.sql ctx))

def jsonPathExists (ctx : Context) (negated : Bool) (l r : Term) : Compiled := do
  let path ← r.pathText ctx
  let sql ← l.sql ctx
  return nullCheck (!negated) (ctx.dialect.extract sql path)

def jsonContains (ctx : Context) (negated : Bool) (l r : Term) : Compiled := do
  needsJson ctx .jsonContains
  let sql ← l.sql ctx
  let part ← r.jsonSql ctx
  return negatedIf ctx negated
    ("JSON_CONTAINS(".toList ++ sql ++ ", ".toList ++ part ++ ") = 1".toList)

def jsonSearch (ctx : Context) (negated : Bool) (l r : Term) : Compiled := do
  needsJson ctx .jsonSearch
  let sql ← l.sql ctx
  let other ← r.sql ctx
  return nullCheck (!negated)
    ("JSON_SEARCH(".toList ++ sql ++ ", 'one', ".toList ++ other ++ [')'])

def between (ctx : Context) (negated : Bool) (l r : Term) (written : Text) : Compiled := do
  match r with
  | array [low, high] =>
    let sql ← l.sql ctx
    let low ← low.sql ctx.dialect
    let high ← high.sql ctx.dialect
    return sql ++ (if negated then " NOT BETWEEN ".toList else " BETWEEN ".toList)
      ++ low ++ " AND ".toList ++ high
  | array values => throw (.pairLength written values.length)
  | _ => throw (.pairExpected written)

def ordering (ctx : Context) (op : Operator) (negated : Bool) (l r : Term) : Compiled := do
  let sql ← l.sql ctx
  let other ← r.sql ctx
  return negatedIf ctx negated (sql ++ ' ' :: (op.symbol ++ ' ' :: other))

def checked : Term → Except Error Term
  | malformed t => .error (.arrayText t)
  | t => .ok t

/-- Compares two terms; `written` is the right side as written. -/
def compare (ctx : Context) (op : Operator) (negated : Bool) (l r : Term) (written : Text) :
    Compiled :=
  match op with
  | .equal => equality ctx negated l r
  | .notEqual => equality ctx (!negated) l r
  | .membership => membership ctx negated l r
  | .contains | .startsWith | .endsWith => pattern ctx op negated l r
  | .regexp => regexp ctx negated l r
  | .jsonKeyExists => jsonKeyExists ctx negated l r
  | .jsonPathExists => jsonPathExists ctx negated l r
  | .jsonContains => jsonContains ctx negated l r
  | .jsonSearch => jsonSearch ctx negated l r
  | .between => between ctx negated l r written
  | .notBetween => between ctx (!negated) l r written
  | .greater | .less | .greaterOrEqual | .lessOrEqual => ordering ctx op negated l r

end QueryShorthand.Term
