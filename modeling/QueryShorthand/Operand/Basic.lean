import QueryShorthand.Operand.Column
import QueryShorthand.Text.DecimalDigit

namespace QueryShorthand

inductive Operand where
  /-- `?`, the value bound under the name of the column that it is compared with. -/
  | auto
  | column (c : Column)
  | parameter (name : Text)
  /-- A number, a quoted text or a JSON path. -/
  | literal (text : Text)
  | array (values : List Value)
  /-- A bracketed text that is no JSON array; it is refused when it is used. -/
  | malformedArray (text : Text)
  | null
  | call (name : Text) (args : List Operand)

namespace Operand

def isAuto : Operand → Bool
  | auto => true
  | _ => false

def isNull : Operand → Bool
  | null => true
  | _ => false

def isParameter : Operand → Bool
  | parameter _ => true
  | _ => false

def column? : Operand → Option Column
  | column c => some c
  | _ => none

def digits? (t : Text) : Option Text :=
  if t.head?.any isDecimalDigit then some (t.dropWhile isDecimalDigit) else none

def isExponent : Text → Bool
  | c :: t =>
    let digits := match t with
      | '+' :: r => r
      | '-' :: r => r
      | _ => t
    (c == 'e' || c == 'E') && digits? digits == some []
  | [] => false

/-- A number: digits of any script with an optional minus, fraction and exponent. -/
def isNumber (t : Text) : Bool :=
  let t := match t with
    | '-' :: r => r
    | _ => t
  match digits? t with
  | none => false
  | some [] => true
  | some ('.' :: r) =>
    match digits? r with
    | none => false
    | some rest => rest == [] || isExponent rest
  | some rest => isExponent rest

def isBareLiteral (t : Text) : Bool := t.head? == some '$' || isNumber t

/-- A list of values as JSON; statements, which have no JSON form, cannot occur in a literal. -/
def arrayText (values : List Value) : Text :=
  match (Value.array values).toJson with
  | .ok j => j.written
  | .error _ => []

mutual

def written : Operand → Text
  | auto => ['?']
  | column c => c.written
  | parameter name => ':' :: name
  | literal t => if isBareLiteral t then t else Text.quoted '\'' t
  | array values => arrayText values
  | malformedArray t => t
  | null => "null".toList
  | call name args => name ++ '(' :: (writtenAll args ++ [')'])

def writtenAll : List Operand → Text
  | [] => []
  | [a] => a.written
  | a :: as => a.written ++ ',' :: ' ' :: writtenAll as

end

end Operand

end QueryShorthand
