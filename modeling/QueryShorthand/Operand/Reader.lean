import QueryShorthand.Json.Reader
import QueryShorthand.Operand.Basic
import QueryShorthand.Text.UpperCase
import QueryShorthand.Token.Sequence
import QueryShorthand.Token.Tree

namespace QueryShorthand.Operand

def call? (t : Text) : Option (Text × Text) :=
  match Name.word? t with
  | some (name, '(' :: r) => if r.getLast? = some ')' then some (name, r.dropLast) else none
  | _ => none

def ofBracketed (t : Text) : Operand :=
  match Json.read? t with
  | some (.array items) => array (Value.ofJsonAll items)
  | _ => malformedArray t

def parameter? : Text → Option Text
  | ':' :: name => if name ≠ [] ∧ name.all isWordChar then some name else none
  | _ => none

def isNullWord (t : Text) : Bool := t.map Char.toLower == "null".toList

/-- An operand that is no function call, from a text without blanks around it. The forms are tried
in this order, so a name `null` is not a column and a bracketed text is never quoted. -/
def simple? (t : Text) : Except Error (Option Operand) :=
  if t = [] then .error (.operand [])
  else if t = ['?'] then .ok (some auto)
  else
    match parameter? t with
    | some name => .ok (some (parameter name))
    | none =>
      if t.head? = some '[' ∧ t.getLast? = some ']' then .ok (some (ofBracketed t))
      else if isNullWord t then .ok (some null)
      else if t.isQuoted then .ok (some (literal t.unquote))
      else if isBareLiteral t then .ok (some (literal t))
      else
        match Column.read? t with
        | .error e => .error e
        | .ok (some c) => if c.isWildcard then .error (.operand t) else .ok (some (column c))
        | .ok none => .ok none

theorem length_lt_of_call? {t name args : Text} (h : call? t = some (name, args)) :
    args.length < t.length := by
  unfold call? at h
  split at h
  · next n r hw =>
    split at h
    · simp only [Option.some.injEq, Prod.mk.injEq] at h
      obtain ⟨rfl, rfl⟩ := h
      have hr : ('(' :: r).length ≤ t.length := by
        cases t with
        | nil => simp [Name.word?] at hw
        | cons c u =>
          simp only [Name.word?] at hw
          split at hw
          · simp only [Option.some.injEq, Prod.mk.injEq] at hw
            rw [← hw.2]
            exact Nat.le_trans (List.dropWhile_sublist _).length_le (by simp)
          · simp at hw
      simp at hr ⊢
      omega
    · simp at h
  · simp at h

/-- Reads a text as an operand. As an argument of a call, a wildcard is an operand too. -/
def read (text : Text) : Except Error Operand :=
  match simple? text.trim with
  | .error e => .error e
  | .ok (some o) => .ok o
  | .ok none =>
    match _call : call? text.trim with
    | none => .error (.operand text.trim)
    | some (name, args) =>
      match _read : Token.read [[',']] args with
      | .error e => .error e
      | .ok tokens =>
        let slots : List (Slot (Except Error Operand)) := tokens.attach.map fun ⟨token, _⟩ =>
          match token with
          | .combinator s => .mark s
          | .leaf leaf => .item fun _ =>
            match Column.read? leaf with
            | .error e => .error e
            | .ok (some c) => if c.isWildcard then .ok (column c) else read leaf
            | .ok none => read leaf
          | token => .item fun _ => .error (.operand token.written)
        (Slot.items slots).map (call (Text.upper name))
termination_by text.length
decreasing_by
  all_goals
    have := Token.length_le_of_read _read ‹_›
    have := length_lt_of_call? _call
    have := Text.length_trim_le text
    omega

end QueryShorthand.Operand
