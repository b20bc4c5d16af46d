import QueryShorthand.Dialect

/-!
Why a shorthand text is refused or cannot become SQL, and the wording of each cause.
-/

namespace QueryShorthand

inductive CutFault where
  | unbalancedOpen
  | unbalancedClose
  | openAfterGroup
  | danglingEscape
  | unterminatedQuote (quote : Char)
  | unterminatedSpan (opener : Char)
  deriving DecidableEq, Repr

/-- What is wrong with the bracket of a join step; `step` is the step as written. -/
inductive BracketFault where
  | emptyCondition
  | onFirst (step : Text)
  | onCross (step : Text)
  | missing (step : Text)
  | unconditional (text : Text)
  deriving DecidableEq, Repr

inductive NameRole where
  | table
  | column
  | orderColumn
  | conflictTarget
  deriving DecidableEq, Repr

inductive Error where
  /-- A text cannot be cut; `position` counts bytes of the text that is being cut. -/
  | cut (position : Nat) (fault : CutFault)
  | combinator (symbol : Text)
  | malformedClip (clip : Text)
  | doubleAuto (clip : Text)
  | jsonPath (path : Text)
  | operand (text : Text)
  /-- An auto reference that is not compared with a column. -/
  | looseAuto
  | arrayPattern (symbol : Text)
  | statementAsJson
  | nonFinite (number : Text)
  | arrayText (text : Text)
  | pairExpected (text : Text)
  | pairLength (text : Text) (found : Nat)
  | usingColumn (name : Text)
  | bracket (fault : BracketFault)
  | join (text : Text)
  | subqueryAlias (table : Text)
  | unknownPreset (name : Text)
  | presetArguments (preset : Text) (detail : Text)
  | presetConflict (tableAlias existing requested : Text)
  | emptyUpdate (table : Text)
  | emptyName (role : NameRole)
  | unsupported (operator : Text) (dialect : Dialect)
  | config
  deriving DecidableEq, Repr

abbrev Compiled := Except Error Text

def cited (t : Text) : Text := '\x60' :: (t ++ ['\x60'])

def CutFault.message : CutFault → Text
  | unbalancedOpen => "unbalanced ".toList ++ cited ['(']
  | unbalancedClose => "unbalanced ".toList ++ cited [')']
  | openAfterGroup => cited ['('] ++ " directly after a group".toList
  | danglingEscape => "dangling escape".toList
  | unterminatedQuote q => "unterminated quote ".toList ++ cited [q]
  | unterminatedSpan c => "unterminated ".toList ++ cited [c]

def BracketFault.message : BracketFault → Text
  | emptyCondition => "empty ".toList ++ cited "[?...]".toList ++ " condition".toList
  | onFirst s => "the first table must not have a condition bracket: ".toList ++ cited s
  | onCross s => "a cross join must not have a condition bracket: ".toList ++ cited s
  | missing s => "a joined table needs a condition bracket: ".toList ++ cited s
  | unconditional t => t

def NameRole.name : NameRole → Text
  | table => "table".toList
  | column => "column".toList
  | orderColumn => "order column".toList
  | conflictTarget => "conflict target column".toList

namespace Error

def operandMessage (detail : Text) : Text := "invalid operand ".toList ++ cited detail

def arrayMessage (text : Text) : Text := "invalid array ".toList ++ cited text

def message : Error → Text
  | cut position fault =>
    "tokenize error at position ".toList ++ Text.ofNat position ++ ": ".toList ++ fault.message
  | combinator s => "unexpected combinator ".toList ++ cited s
  | malformedClip c => "malformed clip ".toList ++ cited c
  | doubleAuto c => "both operands of ".toList ++ cited c ++ " are auto-references".toList
  | jsonPath p =>
    "invalid JSON path ".toList ++ cited p ++ ", a path must start with ".toList ++ cited ['$']
  | operand t => operandMessage t
  | looseAuto => operandMessage "? must be compared with a column".toList
  | arrayPattern s => operandMessage ("array operand for ".toList ++ cited s)
  | statementAsJson => operandMessage "nested statement cannot be JSON-encoded".toList
  | nonFinite n => operandMessage n
  | arrayText t => arrayMessage t
  | pairExpected t => arrayMessage t ++ ": BETWEEN needs a two element array".toList
  | pairLength t n => arrayMessage t ++ ": BETWEEN needs 2 elements, found ".toList ++ Text.ofNat n
  | usingColumn n => "invalid USING column ".toList ++ cited n
  | bracket f => "condition bracket error: ".toList ++ f.message
  | join t => "invalid join syntax ".toList ++ cited t
  | subqueryAlias t =>
    "invalid join syntax ".toList ++
      cited ("sub-query ".toList ++ cited t ++ " needs an alias".toList)
  | unknownPreset n => "unknown preset ".toList ++ cited n
  | presetArguments p d =>
    "invalid arguments for preset ".toList ++ cited p ++ ": ".toList ++ d
  | presetConflict a e r =>
    "alias ".toList ++ cited a ++ " already uses preset ".toList ++ cited e ++ ", not ".toList ++
      cited r
  | emptyUpdate t => "no valid update expression for table ".toList ++ cited t
  | emptyName r => "empty ".toList ++ r.name ++ " name".toList
  | unsupported o d =>
    "operator ".toList ++ cited o ++ " is not supported by the ".toList ++ d.name ++
      " dialect".toList
  | config => "configuration error".toList

end Error

end QueryShorthand
