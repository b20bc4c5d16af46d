import QueryShorthand.Statement.Select

/-! The presets that come with the library: the latest row of each group, and the distinct
combinations of some columns. -/

namespace QueryShorthand.Preset

def bareColumn (preset arg : Text) : Except Error Text :=
  match Column.read? arg with
  | .ok (some c) =>
    if c.isPlain && !c.isWildcard && c.name == arg then .ok c.name
    else .error (.presetArguments preset (cited arg ++ " is not a column name".toList))
  | _ => .error (.presetArguments preset (cited arg ++ " is not a column name".toList))

namespace Latest

def name : Text := "Latest".toList

def init (args : List Text) : ExceptT Error (StateM (State (Option (Text × Text)))) Unit :=
  match args with
  | [group, order] => do
    let group ← bareColumn name group
    let order ← bareColumn name order
    modify fun s => { s with columns := some (group, order) }
  | _ =>
    throw (.presetArguments name ("expected 2 arguments, got ".toList ++ Text.ofNat args.length))

/-- Rows with no later row of the same group. Rows that tie are all kept. -/
def query (site : Site) (group order : Text) : Compiled := do
  let columnOf (side : Char) (column : Text) : Text := side :: '.' :: column
  let select ← Select.start site.target "l.*".toList
  let select ← select.withTables <|
    columnOf 'l' site.table ++ '<' :: columnOf 'r' site.table
      ++ "[?".toList ++ columnOf 'l' group ++ '=' :: columnOf 'r' group
      ++ ',' :: columnOf 'l' order ++ '<' :: columnOf 'r' order ++ [']']
  let select ← select.withCondition (columnOf 'r' order ++ "=null".toList)
  select.sql

def object : Object (Option (Text × Text)) where
  unset := none
  init := init
  sql s :=
    match s.columns with
    | none => .error (.presetArguments name "used before init".toList)
    | some (group, order) => query s.site group order

def template : Template := object.template

end Latest

namespace Distinct

def name : Text := "Distinct".toList

def init (args : List Text) : ExceptT Error (StateM (State (List Text))) Unit := do
  if args.isEmpty then throw (.presetArguments name "expected at least one column".toList)
  let columns ← (args.mapM (bareColumn name) : Except Error (List Text))
  modify fun s => { s with columns }

def query (site : Site) (columns : List Text) : Compiled := do
  let select ← Select.start site.target (Text.joined ", ".toList columns)
  let select ← select.withDistinct.withTables site.table
  select.sql

def object : Object (List Text) where
  unset := []
  init := init
  sql s :=
    if s.columns.isEmpty then .error (.presetArguments name "no columns".toList)
    else query s.site s.columns

def template : Template := object.template

end Distinct

namespace Registry

def stock : Registry :=
  (Bindings.empty.insert Latest.name Latest.template).insert Distinct.name Distinct.template

end Registry

end QueryShorthand.Preset
