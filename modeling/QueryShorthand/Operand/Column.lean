import QueryShorthand.Operand.Name
import QueryShorthand.Target.Basic

/-!
Column references: `[qualifier.]name[->path]`.
-/

namespace QueryShorthand

/-- A JSON path behind a column; `->>` asks for the scalar as plain text. -/
structure Path where
  text : Text
  scalar : Bool
  deriving DecidableEq, Repr

structure Column where
  qualifier : Option Text := none
  /-- The name, or `*` for all columns. -/
  name : Text
  path : Option Path := none
  deriving DecidableEq, Repr

namespace Column

def isWildcard (c : Column) : Bool := c.name == ['*']

def isPlain (c : Column) : Bool := c.qualifier.isNone && c.path.isNone

def path? (t : Text) : Option Text :=
  let quoted (q : Char) (r : Text) : Option Text :=
    match Text.quotedRest? q false r with
    | some (p, []) => some p
    | _ => none
  match t with
  | [] => none
  | '\'' :: r => quoted '\'' r
  | '"' :: r => quoted '"' r
  | _ =>
    if t.all fun c => c != '\'' && c != '"' && !isBlank c then some t.unquote else none

/-- The column with the path that is all of `t`, if it is one. A path starts with `$`. -/
def withPath (c : Column) (scalar : Bool) (t : Text) : Except Error (Option Column) :=
  match path? t with
  | none => .ok none
  | some p =>
    if p.head? = some '$' then .ok (some { c with path := some ⟨p, scalar⟩ })
    else .error (.jsonPath p)

def splitQualifier (t : Text) : Option Text × Text :=
  match Name.read? false t with
  | some (q, '.' :: r) => (some q, r)
  | _ => (none, t)

def name? (t : Text) : Option (Text × Text) :=
  match t with
  | '*' :: r => some (['*'], r)
  | _ => Name.read? false t

/-- The column reference that `t` is, if it is one. An arrow with nothing behind it but `>` is a
path. -/
def read? (t : Text) : Except Error (Option Column) :=
  let (q, r) := splitQualifier t
  match name? r with
  | none => .ok none
  | some (name, rest) =>
    let c : Column := { qualifier := q, name }
    match rest with
    | [] => .ok (some c)
    | ['-', '>', '>'] => c.withPath false ['>']
    | '-' :: '>' :: '>' :: p => c.withPath true p
    | '-' :: '>' :: p => c.withPath false p
    | _ => .ok none

def sql (ctx : Context) (c : Column) : Text :=
  let name := if c.isWildcard then ['*'] else ctx.quoteName c.name
  let column := match c.qualifier with
    | some q => ctx.quoteName q ++ '.' :: name
    | none => name
  match c.path with
  | some p => ctx.dialect.atPath column p.text p.scalar
  | none => column

def arrow (scalar : Bool) : Text := if scalar then "->>".toList else "->".toList

def written (c : Column) : Text :=
  let q := match c.qualifier with
    | some q => Name.written q ++ ['.']
    | none => []
  let name := if c.isWildcard then ['*'] else Name.written c.name
  let path := match c.path with
    | some p => arrow p.scalar ++ Text.quoted '\'' p.text
    | none => []
  q ++ name ++ path

end Column

end QueryShorthand
