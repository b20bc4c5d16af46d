import QueryShorthand.Bindings
import QueryShorthand.Number.Binary64

/-!
JSON documents. Objects hold their members in ascending order of the keys, each key once.
-/

namespace QueryShorthand

inductive Json.Number where
  | natural (n : UInt64)
  | negative (n : Int64) (isNegative : n < 0)
  | float (x : Binary64) (isFinite : x.isFinite = true)
  deriving DecidableEq, Repr

inductive Json where
  | null
  | bool (b : Bool)
  | number (n : Json.Number)
  | text (t : Text)
  | array (items : List Json)
  | object (members : List (Text × Json))
  deriving Repr, Inhabited

namespace Json

/-- The object with the given members; of equal keys the last one counts. -/
def ofMembers (members : List (Text × Json)) : Json :=
  object (members.foldl (fun l e => insertKey e.1 e.2 l) [])

def Number.ofInt64 (n : Int64) : Number :=
  if h : n < 0 then negative n h else natural n.toUInt64

/-- Floats of one value are the same, so the two zeros are. -/
def Number.same : Number → Number → Bool
  | float x _, float y _ => x.same y
  | a, b => a == b

mutual

def same : Json → Json → Bool
  | null, null => true
  | bool a, bool b => a == b
  | number a, number b => a.same b
  | text a, text b => a == b
  | array a, array b => sameItems a b
  | object a, object b => sameMembers a b
  | _, _ => false

def sameItems : List Json → List Json → Bool
  | [], [] => true
  | a :: as, b :: bs => same a b && sameItems as bs
  | _, _ => false

def sameMembers : List (Text × Json) → List (Text × Json) → Bool
  | [], [] => true
  | (k, a) :: as, (l, b) :: bs => k == l && same a b && sameMembers as bs
  | _, _ => false

end

end Json

end QueryShorthand
