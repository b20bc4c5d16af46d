import QueryShorthand.Error
import QueryShorthand.Json.Basic
import QueryShorthand.Number.Shortest

/-!
Values that can be bound to a name, and their conversion from and to JSON.
-/

namespace QueryShorthand

/-- A statement bound as a value. Only its SQL and its identity can be observed. -/
structure Nested where
  id : Nat
  sql : Compiled

inductive Value where
  | null
  | bool (b : Bool)
  | int (n : Int64)
  | float (x : Binary64)
  | text (t : Text)
  | array (items : List Value)
  | json (j : Json)
  | statement (s : Nested)
  deriving Inhabited

namespace Value

def isNull : Value → Bool
  | null => true
  | _ => false

def text? : Value → Option Text
  | text t => some t
  | _ => none

def jsonOfFloat (x : Binary64) : Json :=
  if h : x.isFinite = true then .number (.float x h) else .null

mutual

def toJson : Value → Except Error Json
  | null => .ok .null
  | bool b => .ok (.bool b)
  | int n => .ok (.number (.ofInt64 n))
  | float x => .ok (jsonOfFloat x)
  | text t => .ok (.text t)
  | array items => (toJsonAll items).map .array
  | json j => .ok j
  | statement _ => .error .statementAsJson

def toJsonAll : List Value → Except Error (List Json)
  | [] => .ok []
  | v :: vs => do
    let j ← v.toJson
    let js ← toJsonAll vs
    return j :: js

end

/-- Integers beyond the signed range keep their digits as text. -/
def ofNumber : Json.Number → Value
  | .natural n =>
    if n.toNat < 9223372036854775808 then int n.toInt64 else text (Text.ofNat n.toNat)
  | .negative n _ => int n
  | .float x _ => float x

mutual

/-- Arrays are taken apart, objects are not. -/
def ofJson : Json → Value
  | .null => null
  | .bool b => bool b
  | .number n => ofNumber n
  | .text t => text t
  | .array items => array (ofJsonAll items)
  | .object members => json (.object members)

def ofJsonAll : List Json → List Value
  | [] => []
  | j :: js => ofJson j :: ofJsonAll js

end

mutual

/-- Values of different kinds differ, NaN differs from itself, and a statement is the same only as
itself. -/
def same : Value → Value → Bool
  | null, null => true
  | bool a, bool b => a == b
  | int a, int b => a == b
  | float a, float b => a.same b
  | text a, text b => a == b
  | array a, array b => sameAll a b
  | json a, json b => a.same b
  | statement a, statement b => a.id == b.id
  | _, _ => false

def sameAll : List Value → List Value → Bool
  | [], [] => true
  | a :: as, b :: bs => same a b && sameAll as bs
  | _, _ => false

end

end Value

abbrev Parameters := Bindings Value

namespace Parameters

def same (a b : Parameters) : Bool := Bindings.same Value.same a b

end Parameters

end QueryShorthand
