import QueryShorthand.Proofs.Json.Nesting
import QueryShorthand.Proofs.Operand.Names
import QueryShorthand.Proofs.Text.Upper

/-! What the parts of an operand may be. -/
namespace QueryShorthand.Operand

variable {t : Text} {o : Operand}

def isWildcard : Operand → Bool
  | column c => c.isWildcard
  | _ => false

mutual

/-- What reading makes sure of. A wildcard may be an argument. -/
def Formed : Operand → Prop
  | column c => c.Formed
  | parameter name => name ≠ [] ∧ name.all isWordChar = true
  | array values => ∃ items, Json.Nests 127 (.array items) ∧ values = Value.ofJsonAll items
  | malformedArray t =>
    t.head? = some '[' ∧ t.getLast? = some ']' ∧ ofBracketed t = malformedArray t
  | call name args => Text.upper name = name ∧ FormedAll args
  | _ => True

def FormedAll : List Operand → Prop
  | [] => True
  | o :: os => o.Formed ∧ FormedAll os

end

theorem formedAll_iff {os : List Operand} : FormedAll os ↔ ∀ o ∈ os, o.Formed := by
  induction os with
  | nil => simp [FormedAll]
  | cons o os ih => simp [FormedAll, ih]

theorem formed_ofBracketed (hhead : t.head? = some '[') (hlast : t.getLast? = some ']') :
    (ofBracketed t).Formed := by
  cases hj : ofBracketed t with
  | array values =>
    unfold ofBracketed at hj
    split at hj
    · next items hread =>
      cases hj
      exact ⟨items, Json.nests_of_read? hread, rfl⟩
    · cases hj
  | malformedArray u =>
    have hu : t = u := by
      unfold ofBracketed at hj
      split at hj
      · cases hj
      · cases hj
        rfl
    subst hu
    exact ⟨hhead, hlast, hj⟩
  | _ =>
    unfold ofBracketed at hj
    split at hj <;> cases hj

theorem formed_of_simple? (h : simple? t = .ok (some o)) : o.Formed ∧ o.isWildcard = false := by
  simp only [simple?] at h
  split at h
  · cases h
  split at h
  · cases h
    exact ⟨trivial, rfl⟩
  split at h
  · next name hname =>
    cases h
    unfold parameter? at hname
    split at hname
    · split at hname
      · next hchars =>
        cases hname
        exact ⟨hchars, rfl⟩
      · cases hname
    · cases hname
  split at h
  · next hbracket =>
    cases h
    refine ⟨formed_ofBracketed hbracket.1 hbracket.2, ?_⟩
    unfold ofBracketed
    split <;> rfl
  split at h
  · cases h
    exact ⟨trivial, rfl⟩
  split at h
  · cases h
    exact ⟨trivial, rfl⟩
  split at h
  · cases h
    exact ⟨trivial, rfl⟩
  split at h
  · cases h
  · next c hc =>
    split at h
    · cases h
    · next hwild =>
      cases h
      rw [Bool.not_eq_true] at hwild
      exact ⟨Column.formed_of_read? hc, hwild⟩
  · cases h

theorem formed_of_read (h : read t = .ok o) : o.Formed := by
  refine read_induction (P := Formed) (fun _ _ => Column.formed_of_read?)
    (fun _ _ h => (formed_of_simple? h).1) ?_ h
  intro t name args os _ hos
  exact ⟨Text.upper_upper name, formedAll_iff.2 hos⟩

theorem not_isWildcard_of_read (h : read t = .ok o) : o.isWildcard = false := by
  rcases read_cases h with hs | ⟨-, name, args, os, -, -, rfl⟩
  · exact (formed_of_simple? hs).2
  · rfl

end QueryShorthand.Operand
