import Mathlib.Data.List.Sort
import QueryShorthand.Token.Tree

/-! Marks by their size, and the combinators that come of them. -/
namespace QueryShorthand

def NotShorter (m n : Text) : Prop := n.byteSize ≤ m.byteSize

instance : DecidableRel NotShorter :=
  fun m n => inferInstanceAs (Decidable (n.byteSize ≤ m.byteSize))

instance : Std.Total NotShorter := ⟨fun m n => Nat.le_total n.byteSize m.byteSize⟩

instance : IsTrans Text NotShorter := ⟨fun _ _ _ h h' => Nat.le_trans h' h⟩

theorem insertBySize_eq (m : Text) (marks : List Text) :
    insertBySize m marks = marks.orderedInsert NotShorter m := by
  induction marks with
  | nil => rfl
  | cons n marks ih =>
    rw [insertBySize, List.orderedInsert_cons, ih]
    rfl

theorem longestFirst_eq (marks : List Text) :
    longestFirst marks = marks.insertionSort NotShorter := by
  induction marks with
  | nil => rfl
  | cons m marks ih =>
    rw [List.insertionSort_cons, ← ih, ← insertBySize_eq]
    rfl

theorem mem_longestFirst {m : Text} {marks : List Text} : m ∈ longestFirst marks ↔ m ∈ marks := by
  rw [longestFirst_eq]
  exact List.mem_insertionSort NotShorter

theorem pairwise_longestFirst (marks : List Text) : (longestFirst marks).Pairwise NotShorter := by
  rw [longestFirst_eq]
  exact List.pairwise_insertionSort NotShorter marks

theorem mem_of_mem_longestFirst {m : Text} {marks : List Text} (h : m ∈ longestFirst marks) :
    m ∈ marks :=
  mem_longestFirst.1 h

theorem mem_of_firstMark {marks : List Text} {follow : Text → Bool} {t m r : Text}
    (h : firstMark marks follow t = some (m, r)) : m ∈ marks := by
  fun_induction firstMark marks follow t with
  | case1 => cases h
  | case2 =>
    cases h
    exact List.mem_cons_self
  | case3 _ _ _ _ _ ih => exact List.mem_cons_of_mem _ (ih h)
  | case4 _ _ _ ih => exact List.mem_cons_of_mem _ (ih h)

theorem notShorter_of_firstMark {marks : List Text} {follow : Text → Bool} {t m n r s : Text}
    (hsorted : marks.Pairwise NotShorter) (h : firstMark marks follow t = some (m, r))
    (hn : n ∈ marks) (hne : n ≠ []) (ht : t = n ++ s) (hs : follow s = true) : NotShorter m n := by
  fun_induction firstMark marks follow t with
  | case1 => cases h
  | case2 =>
    cases h
    rcases List.mem_cons.1 hn with rfl | hn
    · exact Nat.le_refl _
    · exact List.rel_of_pairwise_cons hsorted hn
  | case3 k marks r' ha hk ih =>
    rcases List.mem_cons.1 hn with rfl | hn
    · obtain rfl : r' = s := List.append_cancel_left ((Text.after?_eq_some_iff.1 ha).symm.trans ht)
      exact absurd ⟨hne, hs⟩ hk
    · exact ih hsorted.of_cons h hn
  | case4 k marks ha ih =>
    rcases List.mem_cons.1 hn with rfl | hn
    · rw [Text.after?_eq_some_iff.2 ht] at ha
      cases ha
    · exact ih hsorted.of_cons h hn

theorem Text.byteSize_pos {t : Text} (h : t ≠ []) : 0 < t.byteSize := by
  obtain ⟨c, t, rfl⟩ := List.exists_cons_of_ne_nil h
  exact Nat.add_pos_left c.utf8Size_pos _

/-- Of two beginnings of a text, the one of more characters has more bytes. -/
theorem NotShorter.length_le {m n t : Text} (h : NotShorter m n) (hm : m <+: t) (hn : n <+: t) :
    n.length ≤ m.length := by
  by_contra hlt
  obtain ⟨s, rfl⟩ := List.prefix_of_prefix_length_le hm hn (by omega)
  have hs : s ≠ [] := by
    rintro rfl
    simp at hlt
  have hsize := Text.byteSize_pos hs
  rw [NotShorter, Text.byteSize_append] at h
  omega

theorem Cutter.mem_marks_of_pieces {cutter : Cutter} {word : Bool} {t m : Text}
    (h : .mark m ∈ (cutter.pieces word t).pieces) : m ∈ cutter.marks := by
  fun_induction Cutter.pieces cutter word t
  case case1 | case4 => cases h
  case case2 ih | case3 ih | case5 ih | case7 ih =>
    rcases List.mem_cons.1 h with h | h
    · cases h
    · exact ih h
  case case6 hm ih =>
    rcases List.mem_cons.1 h with h | h
    · cases h
      exact mem_of_firstMark hm
    · exact ih h

namespace Token

mutual

def combinators : Token → List Text
  | leaf _ => []
  | combinator s => [s]
  | group _ tokens _ => combinatorsAll tokens

def combinatorsAll : List Token → List Text
  | [] => []
  | t :: ts => t.combinators ++ combinatorsAll ts

end

theorem combinatorsAll_append (xs ys : List Token) :
    combinatorsAll (xs ++ ys) = combinatorsAll xs ++ combinatorsAll ys := by
  induction xs with
  | nil => rfl
  | cons x xs ih => rw [List.cons_append, combinatorsAll, combinatorsAll, ih, List.append_assoc]

theorem mem_combinatorsAll {s : Text} {tokens : List Token} (h : combinator s ∈ tokens) :
    s ∈ combinatorsAll tokens := by
  induction tokens with
  | nil => cases h
  | cons t tokens ih =>
    rw [combinatorsAll]
    rcases List.mem_cons.1 h with rfl | h
    · exact List.mem_append_left _ (List.mem_singleton.2 rfl)
    · exact List.mem_append_right _ (ih h)

end Token

def Level.combinators (level : Level) : List Text :=
  Token.combinatorsAll level.tokens ++ level.group.elim [] fun p => Token.combinatorsAll p.2

theorem Level.combinators_flushed {hook : Text → Except Error Text} {level : Level}
    {tokens : List Token} (h : level.flushed hook = .ok tokens) :
    Token.combinatorsAll tokens = level.combinators := by
  obtain ⟨before, group, text⟩ := level
  cases group with
  | some p =>
    cases h
    simp [Level.combinators, Token.combinatorsAll_append, Token.combinatorsAll, Token.combinators]
  | none =>
    simp only [Level.flushed] at h
    split at h
    · cases h
      simp [Level.combinators]
    · cases hl : hook text.trim with
      | error e =>
        rw [hl] at h
        cases h
      | ok leaf =>
        rw [hl] at h
        cases h
        simp [Level.combinators, Token.combinatorsAll_append, Token.combinatorsAll,
          Token.combinators]

namespace Token

/-- What holds of the marks and of the combinators read before holds of all combinators. -/
theorem combinators_of_assemble {P : Text → Prop} {hook : Text → Except Error Text}
    {fail : Stop → Error} {stop : Option Stop} {pieces : List Piece} {stack : List (Text × Level)}
    {level : Level} {tokens : List Token}
    (h : assemble hook fail stop stack level pieces = .ok tokens)
    (hp : ∀ m, .mark m ∈ pieces → P m) (hl : ∀ m ∈ level.combinators, P m)
    (hs : ∀ l ∈ stack, ∀ m ∈ l.2.combinators, P m) : ∀ m ∈ combinatorsAll tokens, P m := by
  fun_induction assemble hook fail stop stack level pieces with
  | case1 => cases h
  | case2 => cases h
  | case3 level =>
    rw [Level.combinators_flushed h]
    exact hl
  | case4 stack level c ps ih => exact ih h (fun m hm => hp m (List.mem_cons_of_mem _ hm)) hl hs
  | case5 stack level t ps ih => exact ih h (fun m hm => hp m (List.mem_cons_of_mem _ hm)) hl hs
  | case6 => cases h
  | case7 stack level m ps ts hf ih =>
    refine ih h (fun n hn => hp n (List.mem_cons_of_mem _ hn)) ?_ hs
    intro n hn
    simp only [Level.combinators, combinatorsAll_append, Level.combinators_flushed hf,
      combinatorsAll,
      combinators, Option.elim_none, List.append_nil, List.mem_append, List.mem_singleton] at hn
    rcases hn with hn | rfl
    · exact hl n (by simpa [Level.combinators] using hn)
    · exact hp n List.mem_cons_self
  | case8 => cases h
  | case9 stack level here ps hg ih =>
    refine ih h (fun m hm => hp m (List.mem_cons_of_mem _ hm)) ?_ (List.forall_mem_cons.2 ⟨hl, hs⟩)
    intro m hm
    cases hm
  | case10 => cases h
  | case11 => cases h
  | case12 level here ps h0 outer stack ts hf ih =>
    obtain ⟨ho, hs⟩ := List.forall_mem_cons.1 hs
    refine ih h (fun m hm => hp m (List.mem_cons_of_mem _ hm)) ?_ hs
    intro m hm
    simp only [Level.combinators, Option.elim_some, Level.combinators_flushed hf] at hm
    rcases List.mem_append.1 hm with hm | hm
    · exact ho m (List.mem_append_left _ hm)
    · exact hl m hm

theorem mem_of_readWith {hook : Text → Except Error Text} {delimiters : List Text} {input : Text}
    {tokens : List Token} (h : readWith hook delimiters input = .ok tokens) :
    ∀ m ∈ combinatorsAll tokens, m ∈ delimiters := by
  apply combinators_of_assemble (P := (· ∈ delimiters)) h
  · intro m hm
    exact mem_of_mem_longestFirst (Cutter.mem_marks_of_pieces hm)
  · intro m hm
    cases hm
  · intro l hl
    cases hl

end Token

end QueryShorthand
