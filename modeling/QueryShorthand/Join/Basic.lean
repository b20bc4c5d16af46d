import QueryShorthand.Condition.Basic
import QueryShorthand.Join.Kind
import QueryShorthand.Preset.Basic

/-!
Joins: sequences of tables, each joined to the ones before it.
-/

namespace QueryShorthand

namespace Join

inductive Bracket where
  | condition (c : Condition)
  /-- By columns of the same name that are merged. -/
  | merged (columns : List Text)
  /-- By columns that are equal to those of the table `of`, or else of the first table. -/
  | equal (of : Option Text) (columns : List Text)

mutual

inductive Source where
  /-- A real table, or a sub-query that is registered under the name. -/
  | table (name : Text) (tableAlias : Option Text)
  /-- A table that is read through the preset instance of the alias. -/
  | preset (table tableAlias preset : Text)
  | group (steps : List Step)

/-- One table with the way it is joined; the first of a sequence has neither kind nor bracket. -/
inductive Step where
  | mk (kind : Option Kind) (source : Source) (bracket : Option Bracket)

end

namespace Step

def kind : Step → Option Kind
  | mk k _ _ => k

def source : Step → Source
  | mk _ s _ => s

def bracket : Step → Option Bracket
  | mk _ _ b => b

end Step

end Join

structure Join where
  source : Text
  steps : List Join.Step
  /-- The SQL of each sub-query by the name that stands for it. -/
  subqueries : Bindings Compiled := .empty
  presets : Bindings Preset := .empty

namespace Join

def withSubquery (j : Join) (name : Text) (sql : Compiled) : Join :=
  { j with subqueries := j.subqueries.insert name sql }

end Join

end QueryShorthand
