import QueryShorthand.Json.Reader
import QueryShorthand.Target.Basic

/-! Reading a target from a JSON document: an object with the keys `dialect` and `prefix`, or an
array of the two values in this order. What is missing has its default; other keys are skipped. -/

namespace QueryShorthand

def Dialect.ofName? (name : Text) : Option Dialect :=
  if name = "mysql".toList ∨ name = "mariadb".toList then some .mysql
  else if name = "postgres".toList ∨ name = "pgsql".toList then some .postgres
  else if name = "sqlite".toList then some .sqlite
  else none

namespace Target.Config

open Json (skipBlanks textRest)

def text? (t : Text) : Option (Text × Text) :=
  match skipBlanks t with
  | '"' :: r => textRest false none r
  | _ => none

def after? (c : Char) (t : Text) : Option Text := Text.after? [c] (skipBlanks t)

/-- The name of a dialect, or an object with the name as its only key and null as its value. -/
def dialect? (t : Text) : Option (Dialect × Text) :=
  match after? '\x7b' t with
  | some r => do
    let (name, r) ← text? r
    let d ← Dialect.ofName? name
    let r ← after? ':' r
    let r ← Text.after? "null".toList (skipBlanks r)
    return (d, ← after? '\x7d' r)
  | none => do
    let (name, r) ← text? t
    return (← Dialect.ofName? name, r)

structure Found where
  dialect : Option Dialect := none
  tablePrefix : Option Text := none

def Found.target (f : Found) : Target where
  dialect := f.dialect.getD .mysql
  tablePrefix := f.tablePrefix.getD []

/-- The value of a key; a known key counts once. -/
def Found.value? (f : Found) (key t : Text) : Option (Found × Text) :=
  if key = "dialect".toList then
    match f.dialect with
    | some _ => none
    | none => (dialect? t).map fun p => ({ f with dialect := some p.1 }, p.2)
  else if key = "prefix".toList then
    match f.tablePrefix with
    | some _ => none
    | none => (text? t).map fun p => ({ f with tablePrefix := some p.1 }, p.2)
  else (Json.valueAt? (.skipped t.length) t).map fun p => (f, p.2)

def members? (found : Found) : (fuel : Nat) → Text → Option (Found × Text)
  | 0, _ => none
  | fuel + 1, t =>
    match text? t with
    | none => none
    | some (key, r) =>
      match (after? ':' r).bind (found.value? key) with
      | none => none
      | some (found, r) =>
        match skipBlanks r with
        | '\x7d' :: r' => some (found, r')
        | ',' :: r' => members? found fuel r'
        | _ => none

def items? (t : Text) : Option (Target × Text) :=
  match after? ']' t with
  | some r => some ({}, r)
  | none => do
    let (dialect, r) ← dialect? t
    match after? ']' r with
    | some r => return ({ dialect }, r)
    | none =>
      let (tablePrefix, r) ← text? (← after? ',' r)
      return ({ dialect, tablePrefix }, ← after? ']' r)

def target? (t : Text) : Option (Target × Text) :=
  match skipBlanks t with
  | '\x7b' :: r =>
    match after? '\x7d' r with
    | some r => some ({}, r)
    | none => (members? {} t.length r).map fun p => (p.1.target, p.2)
  | '[' :: r => items? r
  | _ => none

end Target.Config

def Target.read (t : Text) : Except Error Target :=
  match Config.target? t with
  | some (target, r) => if Json.skipBlanks r = [] then .ok target else .error .config
  | none => .error .config

end QueryShorthand
