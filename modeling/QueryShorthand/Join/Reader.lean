import QueryShorthand.Condition.Reader
import QueryShorthand.Join.Basic
import QueryShorthand.Join.Leaf
import QueryShorthand.Token.List

/-!
Reading a join: tables and parenthesised sequences with a join operator between them.
-/

namespace QueryShorthand.Join

/-- Reading keeps the preset instances made so far, by alias. -/
abbrev Reading := StateT (Bindings Preset) (Except Error)

structure Setting where
  target : Target
  registry : Preset.Registry

def splitCommas : Text → List Text
  | [] => [[]]
  | c :: r =>
    if c = ',' then [] :: splitCommas r
    else
      match splitCommas r with
      | part :: parts => (c :: part) :: parts
      | [] => [[c]]

/-- A list of names. Each comma separates, also one in backticks. -/
def names (refuse : Text → Error) (t : Text) : Except Error (List Text) :=
  (splitCommas t).mapM fun part =>
    match Name.whole? false part.trim with
    | some name => .ok name
    | none => .error (refuse part.trim)

/-- The name before a colon, with the text behind it. -/
def override? (t : Text) : Option (Text × Text) :=
  match Name.read? true t with
  | some (name, r) =>
    match Text.trimStart r with
    | ':' :: columns => some (name, columns)
    | _ => none
  | none => none

/-- Reads a bracket as written: `[?condition]`, `[:columns]`, `[table:columns]` or `[columns]`. -/
def Bracket.read (t : Text) : Except Error Bracket :=
  match Text.trim t.tail.dropLast with
  | '?' :: source => do
    let c ← Condition.read source
    if c.isEmpty then throw (.bracket .emptyCondition)
    return condition c
  | ':' :: columns => (names .usingColumn columns).map merged
  | inner =>
    match override? inner with
    | some (table, columns) => (names .join columns).map (equal (some table))
    | none => (names .join inner).map (equal none)

def argumentTexts (t : Text) : Except Error (List Text) := do
  let tokens ← Token.read [[',']] t
  Slot.items (tokens.map (Token.listSlot fun t => .ok (Text.unquote t.written)))

/-- The instance that serves the alias: the one made before, or a new one. An alias keeps to one
preset. -/
def instanceFor (setting : Setting) (presets : Bindings Preset) (name table tableAlias : Text) :
    Except Error Preset :=
  match presets.get? tableAlias with
  | some p =>
    if p.name = name then .ok p else .error (.presetConflict tableAlias p.name name)
  | none => setting.registry.instantiate name ⟨setting.target, table, tableAlias⟩

def configure (setting : Setting) (name table tableAlias : Text) (args : List Text) :
    Reading Unit := do
  let p ← instanceFor setting (← get) name table tableAlias
  let p ← p.configure args
  modify fun presets => presets.insert tableAlias p

def step (kind : Option Kind) (source : Source) (bracket : Option Text) : Except Error Step :=
  match bracket with
  | none => .ok (.mk kind source none)
  | some t => (Bracket.read t).map fun b => .mk kind source (some b)

def leafSource (setting : Setting) (leaf : Leaf) : Reading Source :=
  match leaf.preset with
  | none => return .table leaf.table leaf.tableAlias
  | some (name, argumentText) => do
    let tableAlias := leaf.tableAlias.getD leaf.table
    let args ← argumentTexts argumentText
    configure setting name leaf.table tableAlias args
    return .preset leaf.table tableAlias name

def ofLeaf (setting : Setting) (kind : Option Kind) (t : Text) : Reading Step :=
  match Leaf.read? t with
  | none => throw (.join t)
  | some leaf => do
    let source ← leafSource setting leaf
    step kind source leaf.bracket

/-- A bracket belongs to every table but the first and but a cross joined one. -/
def placed (first : Bool) (written : Text) (s : Step) : Except Error Step :=
  match first, s.kind, s.bracket with
  | true, _, some _ => .error (.bracket (.onFirst written))
  | false, some .cross, some _ => .error (.bracket (.onCross written))
  | false, some .cross, none => .ok s
  | false, some _, none => .error (.bracket (.missing written))
  | _, _, _ => .ok s

def ofGroup (kind : Option Kind) (written lead tail : Text) (inner : List (Slot (Reading Step))) :
    Reading Step :=
  if lead ≠ [] ∨ (tail ≠ [] ∧ !Leaf.inBrackets tail) then throw (.join written)
  else do
    let steps ← Slot.itemsAfter none inner
    step kind (.group steps) (if tail = [] then none else some tail)

mutual

def slot (setting : Setting) : Token → Slot (Reading Step)
  | .combinator s => .mark s
  | .leaf t => .item fun before => do
    let s ← ofLeaf setting (before.bind Kind.ofSymbol?) t
    placed before.isNone t s
  | .group lead tokens tail => .item fun before => do
    let written := (Token.group lead tokens tail).written
    let s ← ofGroup (before.bind Kind.ofSymbol?) written lead tail (slots setting tokens)
    placed before.isNone written s

def slots (setting : Setting) : List Token → List (Slot (Reading Step))
  | [] => []
  | t :: ts => slot setting t :: slots setting ts

end

def checkLeaf (t : Text) : Except Error Text :=
  if (Leaf.read? t).isSome then .ok t else .error (.join t)

def read (setting : Setting) (source : Text) : Except Error Join := do
  let tokens ← Token.readWith checkLeaf Kind.symbols source
  if tokens.isEmpty then throw (.emptyName .table)
  let (steps, presets) ← (Slot.itemsAfter none (slots setting tokens)).run .empty
  return { source, steps, presets }

end QueryShorthand.Join
