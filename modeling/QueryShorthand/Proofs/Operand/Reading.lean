import QueryShorthand.Operand.Reader
import QueryShorthand.Proofs.Token.Slots

/-! Reading an operand, with an induction rule for what was read. -/
namespace QueryShorthand

namespace Operand

/-- An argument of a call, where a wildcard is an operand too. -/
def argument (t : Text) : Except Error Operand :=
  match Column.read? t with
  | .error e => .error e
  | .ok (some c) => if c.isWildcard then .ok (column c) else read t
  | .ok none => read t

def argumentSlot : Token → Slot (Except Error Operand)
  | .combinator s => .mark s
  | .leaf t => .item fun _ => argument t
  | token => .item fun _ => .error (.operand token.written)

def arguments (t : Text) : Except Error (List Operand) := do
  let tokens ← Token.read [[',']] t
  Slot.items (tokens.map argumentSlot)

theorem read_eq (t : Text) : read t =
    match simple? t.trim with
    | .error e => .error e
    | .ok (some o) => .ok o
    | .ok none =>
      match call? t.trim with
      | none => .error (.operand t.trim)
      | some (name, args) => (arguments args).map (call (Text.upper name)) := by
  rw [read]
  cases simple? t.trim with
  | error e => rfl
  | ok o =>
    cases o with
    | some o => rfl
    | none =>
      cases hc : call? t.trim with
      | none => rfl
      | some p =>
        obtain ⟨name, args⟩ := p
        simp only [arguments]
        cases ht : Token.read [[',']] args with
        | error e => rfl
        | ok tokens =>
          show Except.map _ (Slot.items _) = Except.map _ (Slot.items _)
          congr 2
          refine Eq.trans (List.map_congr_left ?_) List.attach_map_val
          rintro ⟨token, _⟩ _
          cases token <;> rfl

theorem read_cases {t : Text} {o : Operand} (h : read t = .ok o) :
    simple? t.trim = .ok (some o) ∨
      simple? t.trim = .ok none ∧ ∃ name args os, call? t.trim = some (name, args) ∧
        arguments args = .ok os ∧ o = call (Text.upper name) os := by
  rw [read_eq] at h
  cases hs : simple? t.trim with
  | error e => simp [hs] at h
  | ok s =>
    cases s with
    | some s =>
      simp only [hs, Except.ok.injEq] at h
      exact .inl (by rw [h])
    | none =>
      simp only [hs] at h
      refine .inr ⟨rfl, ?_⟩
      cases hc : call? t.trim with
      | none => simp [hc] at h
      | some p =>
        obtain ⟨name, args⟩ := p
        simp only [hc] at h
        cases ha : arguments args with
        | error e => simp [ha, Except.map] at h
        | ok os =>
          simp only [ha, Except.map, Except.ok.injEq] at h
          exact ⟨name, args, os, rfl, ha, h.symm⟩

theorem argument_cases {t : Text} {os : List Operand} (h : arguments t = .ok os) :
    ∀ o ∈ os, (∃ leaf c, Column.read? leaf = .ok (some c) ∧ o = column c) ∨
      ∃ leaf : Text, leaf.length ≤ t.length ∧ read leaf = .ok o := by
  simp only [arguments, bind, Except.bind] at h
  cases ht : Token.read [[',']] t with
  | error e => simp [ht] at h
  | ok tokens =>
    simp only [ht] at h
    intro o ho
    obtain ⟨read', b, hm, hr⟩ := Slot.exists_item_of_items h o ho
    obtain ⟨token, htok, hslot⟩ := List.mem_map.1 hm
    cases token with
    | combinator s => cases hslot
    | group lead ts tail =>
      cases hslot
      cases hr
    | leaf leaf =>
      cases hslot
      have hlen := Token.length_le_of_read ht htok
      simp only [argument] at hr
      split at hr
      · cases hr
      · next c hc =>
        split at hr
        · cases hr
          exact .inl ⟨leaf, c, hc, rfl⟩
        · exact .inr ⟨leaf, hlen, hr⟩
      · exact .inr ⟨leaf, hlen, hr⟩

/-- To show something of every operand that is read, show it of columns and simple ones, and of
calls whose arguments have it. -/
theorem read_induction {P : Operand → Prop}
    (columns : ∀ t c, Column.read? t = .ok (some c) → P (column c))
    (simple : ∀ t o, simple? t = .ok (some o) → P o)
    (calls : ∀ t name args os, call? t = some (name, args) → (∀ o ∈ os, P o) →
      P (call (Text.upper name) os)) {t : Text} {o : Operand} (h : read t = .ok o) : P o := by
  induction hn : t.length using Nat.strongRecOn generalizing t o with
  | ind n ih =>
    rcases read_cases h with hs | ⟨-, name, args, os, hc, ha, rfl⟩
    · exact simple _ _ hs
    · refine calls _ _ _ _ hc fun a hm => ?_
      rcases argument_cases ha a hm with ⟨leaf, c, hc, rfl⟩ | ⟨leaf, hl, hr⟩
      · exact columns leaf c hc
      · have hlt := length_lt_of_call? hc
        have htrim := Text.length_trim_le t
        exact ih leaf.length (by omega) hr rfl

end Operand

end QueryShorthand
