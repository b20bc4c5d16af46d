import QueryShorthand.Dialect

/-! Predicates of SQL and their complements, as each database spells them, with truth in three
values. Nothing here depends on what the compiler writes. -/
namespace QueryShorthand

namespace Sql

/-- A truth value; `none` is unknown. -/
abbrev Truth := Option Bool

namespace Truth

def not (a : Truth) : Truth := a.map Bool.not

def and : Truth → Truth → Truth
  | some false, _ => some false
  | some true, b => b
  | none, some false => some false
  | none, _ => none

def or : Truth → Truth → Truth
  | some true, _ => some true
  | some false, b => b
  | none, some true => some true
  | none, _ => none

def all (ts : List Truth) : Truth := ts.foldr and (some true)

def any (ts : List Truth) : Truth := ts.foldr or (some false)

theorem not_and (a b : Truth) : not (and a b) = or (not a) (not b) := by
  rcases a with _ | _ | _ <;> rcases b with _ | _ | _ <;> rfl

theorem not_or (a b : Truth) : not (or a b) = and (not a) (not b) := by
  rcases a with _ | _ | _ <;> rcases b with _ | _ | _ <;> rfl

theorem not_not (a : Truth) : not (not a) = a := by
  rcases a with _ | _ | _ <;> rfl

theorem not_any (ts : List Truth) : not (any ts) = all (ts.map not) := by
  induction ts with
  | nil => rfl
  | cons t ts ih =>
    show not (or t (any ts)) = and (not t) (all (ts.map not))
    rw [not_or, ih]

end Truth

/-- What a comparison says of its operands, each given as SQL. -/
inductive Predicate where
  | isNull (x : Text)
  | equal (x y : Text)
  | among (x : Text) (items : List Text)
  /-- The right side is a query in parentheses. -/
  | amongRows (x query : Text)
  | like (x pattern : Text)
  | regexp (x pattern : Text)
  | between (x low high : Text)
  | holds (e : Text)

namespace Predicate

def matchWords : Dialect → (negated : Bool) → Text
  | .postgres, false => " ~ ".toList
  | .postgres, true => " !~ ".toList
  | .mysql, false | .sqlite, false => " REGEXP ".toList
  | .mysql, true | .sqlite, true => " NOT REGEXP ".toList

def denial : Dialect → Text → Text
  | .mysql, e => "!(".toList ++ e ++ [')']
  | .postgres, e | .sqlite, e => "NOT (".toList ++ e ++ [')']

def sql (d : Dialect) : Predicate → (negated : Bool) → Text
  | isNull x, false => x ++ " IS NULL".toList
  | isNull x, true => x ++ " IS NOT NULL".toList
  | equal x y, false => x ++ " = ".toList ++ y
  | equal x y, true => x ++ " <> ".toList ++ y
  | among x items, false => x ++ " IN(".toList ++ Text.joined ", ".toList items ++ [')']
  | among x items, true => x ++ " NOT IN(".toList ++ Text.joined ", ".toList items ++ [')']
  | amongRows x query, false => x ++ " IN".toList ++ query
  | amongRows x query, true => x ++ " NOT IN".toList ++ query
  | like x p, false => x ++ " LIKE ".toList ++ p
  | like x p, true => x ++ " NOT LIKE ".toList ++ p
  | regexp x p, negated => x ++ matchWords d negated ++ p
  | between x low high, false => x ++ " BETWEEN ".toList ++ low ++ " AND ".toList ++ high
  | between x low high, true => x ++ " NOT BETWEEN ".toList ++ low ++ " AND ".toList ++ high
  | holds e, false => e
  | holds e, true => denial d e

end Predicate

/-- What a database makes of SQL on one row. How it orders and matches values is left open. -/
structure Row (V : Type) where
  value : Text → Option V
  rows : Text → List (Option V)
  order : V → V → Ordering
  like : Option V → Text → Truth
  regexp : Option V → Text → Truth
  holds : Text → Truth

namespace Row

variable {V : Type} (row : Row V)

/-- To compare with a null is unknown. -/
def compared (test : Ordering → Bool) : Option V → Option V → Truth
  | some a, some b => some (test (row.order a b))
  | _, _ => none

def equal (v w : Option V) : Truth := row.compared (· == .eq) v w

def differs (v w : Option V) : Truth := row.compared (· != .eq) v w

theorem not_compared (test : Ordering → Bool) (v w : Option V) :
    (row.compared test v w).not = row.compared (fun o => !test o) v w := by
  cases v <;> cases w <;> rfl

theorem not_any_equal (v : Option V) (vs : List (Option V)) :
    (Truth.any (vs.map (row.equal v))).not = .all (vs.map (row.differs v)) := by
  rw [Truth.not_any, List.map_map]
  exact congrArg Truth.all (List.map_congr_left fun w _ => row.not_compared _ v w)

end Row

def Predicate.truth {V : Type} (row : Row V) : Predicate → (negated : Bool) → Truth
  | isNull x, false => some (row.value x).isNone
  | isNull x, true => some (row.value x).isSome
  | equal x y, false => row.equal (row.value x) (row.value y)
  | equal x y, true => row.differs (row.value x) (row.value y)
  | among x items, false => .any ((items.map row.value).map (row.equal (row.value x)))
  | among x items, true => .all ((items.map row.value).map (row.differs (row.value x)))
  | amongRows x query, false => .any ((row.rows query).map (row.equal (row.value x)))
  | amongRows x query, true => .all ((row.rows query).map (row.differs (row.value x)))
  | like x p, false => row.like (row.value x) p
  | like x p, true => (row.like (row.value x) p).not
  | regexp x p, false => row.regexp (row.value x) p
  | regexp x p, true => (row.regexp (row.value x) p).not
  | between x low high, false => .and (row.compared (· != .lt) (row.value x) (row.value low))
    (row.compared (· != .gt) (row.value x) (row.value high))
  | between x low high, true => .or (row.compared (· == .lt) (row.value x) (row.value low))
    (row.compared (· == .gt) (row.value x) (row.value high))
  | holds e, false => row.holds e
  | holds e, true => (row.holds e).not

namespace Predicate

variable {V : Type} (row : Row V)

theorem truth_true (p : Predicate) : p.truth row true = (p.truth row false).not := by
  cases p with
  | isNull x =>
    rw [truth, truth]
    cases row.value x <;> rfl
  | equal x y => exact (row.not_compared (· == .eq) _ _).symm
  | among x items => exact (row.not_any_equal _ _).symm
  | amongRows x query => exact (row.not_any_equal _ _).symm
  | between x low high =>
    rw [truth, truth, Truth.not_and, row.not_compared, row.not_compared]
    congr 2 <;> funext o <;> cases o <;> rfl
  | like x p => rfl
  | regexp x p => rfl
  | holds e => rfl

/-- Also where one is unknown: then both are. -/
theorem truth_not (p : Predicate) (negated : Bool) :
    p.truth row (!negated) = (p.truth row negated).not := by
  cases negated with
  | false => exact p.truth_true row
  | true =>
    rw [truth_true, Truth.not_not]
    rfl

end Predicate

end Sql

end QueryShorthand
