import QueryShorthand.Bindings
import QueryShorthand.Target.Basic
import QueryShorthand.Text.Visible

/-! Presets: named sub-query templates that a join refers to. A join makes one instance for each
alias and configures it anew with the arguments of each reference. -/

namespace QueryShorthand

namespace Preset

/-- Where an instance is used: the target, the table without prefix, and the alias it serves. -/
structure Site where
  target : Target
  table : Text
  tableAlias : Text

/-- What a preset does with the argument lists that it has accepted so far, in order. -/
structure Template where
  check : Site → (accepted : List (List Text)) → (args : List Text) → Except Error Unit
  sql : Site → (accepted : List (List Text)) → Compiled

structure State (κ : Type) where
  site : Site
  columns : κ

/-- What a preset does whose state is the columns that it was given. -/
structure Object (κ : Type) where
  unset : κ
  /-- Takes the arguments. What it has written before it refuses them is not undone. -/
  init : (args : List Text) → ExceptT Error (StateM (State κ)) Unit
  sql : State κ → Compiled

namespace Object

variable {κ : Type} (o : Object κ)

def new (site : Site) : State κ := { site, columns := o.unset }

def call (s : State κ) (args : List Text) : Except Error Unit × State κ := (o.init args).run.run s

def after (site : Site) (calls : List (List Text)) : State κ :=
  calls.foldl (fun s args => (o.call s args).2) (o.new site)

/-- The object as a template, which goes through the calls again to find the state. -/
def template : Template where
  check site accepted args := (o.call (o.after site accepted) args).1
  sql site accepted := o.sql (o.after site accepted)

end Object

end Preset

structure Preset where
  name : Text
  template : Preset.Template
  site : Preset.Site
  accepted : List (List Text) := []

namespace Preset

def configure (p : Preset) (args : List Text) : Except Error Preset := do
  p.template.check p.site p.accepted args
  return { p with accepted := p.accepted ++ [args] }

def sql (p : Preset) : Compiled := p.template.sql p.site p.accepted

abbrev Registry := Bindings Template

namespace Registry

def instantiate (r : Registry) (name : Text) (site : Site) : Except Error Preset :=
  match r.get? name with
  | some template => .ok { name, template, site }
  | none => .error (.unknownPreset name)

/-- A character of a name in a description; what cannot be seen is written as its code point. -/
def describedChar (c : Char) : Text :=
  if c = '"' ∨ c = '\\' then ['\\', c]
  else if c = '\n' then ['\\', 'n']
  else if c = '\r' then ['\\', 'r']
  else if c = '\t' then ['\\', 't']
  else if c = '\x00' then ['\\', '0']
  else if isVisible c then [c]
  else "\\u".toList ++ '\x7b' :: (Nat.toDigits 16 c.toNat ++ ['\x7d'])

def description (r : Registry) : Text :=
  let names := r.keys.map fun n => '"' :: (n.flatMap describedChar ++ ['"'])
  "PresetRegistry ".toList ++ '\x7b' :: (" presets: [".toList ++ Text.joined ", ".toList names
    ++ "] ".toList ++ ['\x7d'])

end Registry

end Preset

end QueryShorthand
