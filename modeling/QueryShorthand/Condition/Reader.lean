import QueryShorthand.Condition.Basic
import QueryShorthand.Operand.Reader
import QueryShorthand.Token.Clip
import QueryShorthand.Token.Sequence

/-!
Reading a condition: clips joined by `,` (and) and `|` (or), each negated by `!` in front of it.
-/

namespace QueryShorthand

namespace Expr

def negated (bangs : Nat) (e : Expr) : Expr := if bangs % 2 = 1 then not e else e

/-- A comparison as read. An auto reference, and a parameter opposite no other parameter, goes to
the right side. -/
def comparison (clip : Text) (left : Operand) (op : Operator) (right : Operand) :
    Except Error Expr :=
  if left.isAuto && right.isAuto then .error (.doubleAuto clip)
  else if left.isAuto || (left.isParameter && !right.isParameter) then
    .ok (compare right op.swapped left)
  else .ok (compare left op right)

def ofBody (clip body : Text) : Except Error Expr := do
  match ← Clip.split Operator.symbols body with
  | [operand] => return flag (← Operand.read operand)
  | [left, symbol, right] =>
    match Operator.ofSymbol? symbol with
    | none => throw (.malformedClip clip)
    | some op =>
      let l ← Operand.read left
      let r ← Operand.read right
      comparison clip l op r
  | _ => throw (.malformedClip clip)

def isNegation (c : Char) : Bool := c == '!' || isBlank c

def ofLeaf (leaf : Text) : Except Error Expr :=
  (ofBody leaf (leaf.dropWhile isNegation)).map
    (negated ((leaf.takeWhile isNegation).count '!'))

/-- The number of negations in the lead of a group, which holds nothing else. -/
def bangs? (lead : Text) : Option Nat :=
  if lead.all isNegation then some (lead.count '!') else none

/-- An item of a condition with the combinator before it. -/
abbrev Item := Option Text × Expr

def alternatives : List Item → List (List Expr)
  | [] => []
  | (_, e) :: rest =>
    match rest, alternatives rest with
    | (some ['|'], _) :: _, ts => [e] :: ts
    | _, t :: ts => (e :: t) :: ts
    | _, [] => [[e]]

def collapsed (join : List Expr → Expr) : List Expr → Expr
  | [e] => e
  | es => join es

def ofSlots (slots : List (Slot (Except Error Item))) : Except Error (Option Expr) := do
  let items ← Slot.items slots
  if items.isEmpty then return none
  else return some (collapsed any ((alternatives items).map (collapsed all)))

def ofGroup (written lead tail : Text) (inner : List (Slot (Except Error Item))) :
    Except Error Expr :=
  match bangs? lead with
  | none => .error (.malformedClip written)
  | some bangs =>
    if tail ≠ [] then .error (.malformedClip written)
    else
      match ofSlots inner with
      | .error e => .error e
      | .ok none => .error (.malformedClip written)
      | .ok (some e) => .ok (negated bangs (group e))

mutual

def slot : Token → Slot (Except Error Item)
  | .combinator s => .mark s
  | .leaf t => .item fun before => (ofLeaf t).map fun e => (before, e)
  | .group lead tokens tail => .item fun before =>
    (ofGroup (Token.group lead tokens tail).written lead tail (slots tokens)).map
      fun e => (before, e)

def slots : List Token → List (Slot (Except Error Item))
  | [] => []
  | t :: ts => slot t :: slots ts

end

end Expr

namespace Condition

def delimiters : List Text := [[','], ['|']]

def read (source : Text) : Except Error Condition := do
  let tokens ← Token.read delimiters source
  return ⟨source, ← Expr.ofSlots (Expr.slots tokens)⟩

end Condition

end QueryShorthand
