import QueryShorthand.Error
import QueryShorthand.Operand.Name

/-!
One table of a join as written: `[alias.]table[->Preset(args)][bracket]`.
-/

namespace QueryShorthand.Join

structure Leaf where
  tableAlias : Option Text
  table : Text
  /-- The name of a preset and the text of its arguments. -/
  preset : Option (Text × Text)
  bracket : Option Text
  deriving DecidableEq, Repr

namespace Leaf

def inBrackets (t : Text) : Bool := t.head? == some '[' && t.getLast? == some ']'

def consChar (c : Char) : Option (Text × Text) → Option (Text × Text) :=
  Option.map fun p => (c :: p.1, p.2)

/-- Arguments up to the closing parenthesis, which counts only outside quotes; `quote` is the quote
that is open. -/
def arguments? : (quote : Option Char) → Text → Option (Text × Text)
  | _, [] => none
  | none, c :: r =>
    if c = ')' then some ([], r)
    else consChar c (arguments? (if c = '\'' ∨ c = '"' then some c else none) r)
  | some q, '\\' :: c :: r => consChar '\\' (consChar c (arguments? (some q) r))
  | some q, c :: r => consChar c (arguments? (if c = q then none else some q) r)

def preset? : Text → Option ((Text × Text) × Text)
  | '-' :: '>' :: r =>
    match Name.word? r with
    | some (name, '(' :: r) => (arguments? none r).map fun p => ((name, p.1), p.2)
    | _ => none
  | _ => none

def bracket? (t : Text) : Option (Option Text) :=
  if t = [] then some none
  else if inBrackets t then some (some t)
  else none

def read? (t : Text) : Option Leaf := do
  let (tableAlias, r) := match Name.read? true t with
    | some (a, '.' :: r) => (some a, r)
    | _ => (none, t)
  let (table, r) ← Name.read? true r
  let (preset, r) := match preset? r with
    | some (p, r) => (some p, r)
    | none => (none, r)
  let bracket ← bracket? r
  return { tableAlias, table, preset, bracket }

end Leaf

end QueryShorthand.Join
