import QueryShorthand.Proofs.Agreement
import QueryShorthand.Token.Tree

/-! Levels of parentheses and their leaves, with a hook and without. -/
namespace QueryShorthand

namespace Token

mutual

def leaves : Token → List Text
  | leaf t => [t]
  | combinator _ => []
  | group _ tokens _ => leavesAll tokens

def leavesAll : List Token → List Text
  | [] => []
  | t :: ts => t.leaves ++ leavesAll ts

end

theorem leavesAll_append (xs ys : List Token) :
    leavesAll (xs ++ ys) = leavesAll xs ++ leavesAll ys := by
  induction xs with
  | nil => rfl
  | cons x xs ih => rw [List.cons_append, leavesAll, leavesAll, ih, List.append_assoc]

mutual

def mapLeaves (f : Text → Text) : Token → Token
  | leaf t => leaf (f t)
  | combinator s => combinator s
  | group lead tokens tail => group lead (mapLeavesAll f tokens) tail

def mapLeavesAll (f : Text → Text) : List Token → List Token
  | [] => []
  | t :: ts => t.mapLeaves f :: mapLeavesAll f ts

end

theorem mapLeavesAll_append (f : Text → Text) (xs ys : List Token) :
    mapLeavesAll f (xs ++ ys) = mapLeavesAll f xs ++ mapLeavesAll f ys := by
  induction xs with
  | nil => rfl
  | cons x xs ih => rw [List.cons_append, mapLeavesAll, mapLeavesAll, ih, List.cons_append]

mutual

theorem mapLeaves_id : ∀ t : Token, t.mapLeaves id = t
  | leaf _ => rfl
  | combinator _ => rfl
  | group lead tokens tail => by rw [mapLeaves, mapLeavesAll_id tokens]

theorem mapLeavesAll_id : ∀ ts : List Token, mapLeavesAll id ts = ts
  | [] => rfl
  | t :: ts => by rw [mapLeavesAll, mapLeaves_id t, mapLeavesAll_id ts]

end

/-- What the hook makes of a leaf that it takes. -/
def Gives (hook : Text → Except Error Text) (f : Text → Text) : Prop :=
  ∀ x y, hook x = .ok y → y = f x

def Takes (hook : Text → Except Error Text) (f : Text → Text) (leaves : List Text) : Prop :=
  ∀ x ∈ leaves, hook x = .ok (f x)

/-- A hook that may refuse a leaf, but does not change one. -/
def Checks (hook : Text → Except Error Text) : Prop := ∀ x y, hook x = .ok y → y = x

end Token

namespace Level

def last (level : Level) : List Token :=
  match level.group with
  | some (lead, inner) => [.group lead inner level.text.trim]
  | none => if level.text.trim = [] then [] else [.leaf level.text.trim]

def complete (level : Level) : List Token := level.tokens ++ level.last

def leaves (level : Level) : List Text :=
  Token.leavesAll level.tokens ++ level.group.elim [] fun p => Token.leavesAll p.2

theorem leaves_subset (level : Level) : level.leaves ⊆ Token.leavesAll level.complete := by
  obtain ⟨tokens, group, text⟩ := level
  intro x hx
  rw [complete, Token.leavesAll_append]
  cases group with
  | none => exact List.mem_append_left _ (by simpa [leaves] using hx)
  | some p => simpa [leaves, last, Token.leavesAll, Token.leaves] using hx

/-- The level as it is read with a hook that makes `f x` of the leaf `x`. -/
def mapped (f : Text → Text) (level : Level) : Level where
  tokens := Token.mapLeavesAll f level.tokens
  group := level.group.map fun p => (p.1, Token.mapLeavesAll f p.2)
  text := level.text

variable {hook : Text → Except Error Text} {f : Text → Text} {level : Level} {ts : List Token}

theorem mapped_id (level : Level) : level.mapped id = level := by
  obtain ⟨tokens, group, text⟩ := level
  cases group with
  | none => simp [mapped, Token.mapLeavesAll_id]
  | some p => simp [mapped, Token.mapLeavesAll_id]

theorem mapped_combine (f : Text → Text) (level : Level) (m : Text) :
    mapped f { tokens := level.complete ++ [.combinator m] } =
      { tokens := Token.mapLeavesAll f level.complete ++ [.combinator m] } := by
  simp [mapped, Token.mapLeavesAll_append, Token.mapLeavesAll, Token.mapLeaves]

theorem flushed_mapped (h : Token.Takes hook f (Token.leavesAll level.complete)) :
    (level.mapped f).flushed hook = .ok (Token.mapLeavesAll f level.complete) := by
  obtain ⟨tokens, group, text⟩ := level
  cases group with
  | some p =>
    simp [mapped, flushed, complete, last, Token.mapLeavesAll_append, Token.mapLeavesAll,
      Token.mapLeaves]
  | none =>
    by_cases ht : text.trim = []
    · simp [mapped, flushed, complete, last, ht]
    · have hleaf : hook text.trim = .ok (f text.trim) := by
        refine h _ ?_
        simp [complete, last, ht, Token.leavesAll_append, Token.leavesAll, Token.leaves]
      simp [mapped, flushed, complete, last, ht, hleaf, Except.map, Token.mapLeavesAll_append,
        Token.mapLeavesAll, Token.mapLeaves]

theorem flushed_ok (level : Level) : level.flushed .ok = .ok level.complete := by
  have htakes : Token.Takes .ok id (Token.leavesAll level.complete) := fun _ _ => rfl
  have hflush := flushed_mapped htakes
  rwa [mapped_id, Token.mapLeavesAll_id] at hflush

theorem takes_of_flushed (hhook : Token.Gives hook f) (h : (level.mapped f).flushed hook = .ok ts)
    (hl : Token.Takes hook f level.leaves) :
    ts = Token.mapLeavesAll f level.complete ∧
    Token.Takes hook f (Token.leavesAll level.complete) := by
  suffices htakes : Token.Takes hook f (Token.leavesAll level.complete) by
    refine ⟨?_, htakes⟩
    rw [flushed_mapped htakes] at h
    exact (Except.ok.inj h).symm
  obtain ⟨tokens, group, text⟩ := level
  intro x hx
  rw [complete, Token.leavesAll_append] at hx
  rcases List.mem_append.1 hx with hx | hx
  · exact hl x (List.mem_append_left _ hx)
  · cases group with
    | some p =>
      refine hl x (List.mem_append_right _ ?_)
      simpa [last, Token.leavesAll, Token.leaves] using hx
    | none =>
      by_cases ht : text.trim = []
      · simp [last, ht, Token.leavesAll] at hx
      · obtain rfl : x = text.trim := by simpa [last, ht, Token.leavesAll, Token.leaves] using hx
        have hleaf :
            (hook text.trim).map (fun y => Token.mapLeavesAll f tokens ++ [.leaf y]) = .ok ts := by
          simpa [mapped, flushed, ht] using h
        obtain ⟨y, hy, -⟩ := exists_of_map_eq_ok hleaf
        rw [hy, hhook _ _ hy]

end Level

end QueryShorthand
