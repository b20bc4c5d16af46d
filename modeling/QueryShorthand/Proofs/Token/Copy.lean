import QueryShorthand.Proofs.Operand.Solid
import QueryShorthand.Proofs.Token.Alone
import QueryShorthand.Proofs.Token.Marks

/-! Texts that were read without a cut are read alone as they were, unless an escaped blank ends
them. -/
namespace QueryShorthand

variable {c d e : Char} {b r r' s t u v x rest : Text} {word : Bool}

theorem not_isBlank_of_closer (h : d ∈ closers) : isBlank d = false := by
  have hall : ∀ d ∈ closers, isBlank d = false := Text.forall_mem_of_all (by decide)
  exact hall d h

theorem plain_of_isBlank (h : isBlank d = true) : startsSpan d = false ∧ endsWord d = false :=
  ⟨Cutter.startsSpan_of_special (not_special_of_isBlank h), not_endsWord_of_isBlank h⟩

namespace Text

def Dangles (t : Text) : Prop := (t.reverse.takeWhile (· == '\\')).length % 2 = 1

instance (t : Text) : Decidable t.Dangles := inferInstanceAs (Decidable (_ = 1))

theorem dangles_backslash (t : Text) : Dangles (t ++ ['\\']) ↔ ¬ t.Dangles := by
  rw [Dangles, List.reverse_append, List.reverse_singleton, List.singleton_append,
    List.takeWhile_cons_of_pos (by rfl), List.length_cons, Dangles]
  omega

theorem not_dangles_of_last (t : Text) (h : d ≠ '\\') : ¬ Dangles (t ++ [d]) := by
  rw [Dangles, List.reverse_append, List.reverse_singleton, List.singleton_append,
    List.takeWhile_cons_of_neg (by simpa using h)]
  decide

theorem not_dangles_escape (d : Char) (h : ¬ t.Dangles) : ¬ Dangles (t ++ ['\\', d]) := by
  have hsplit : t ++ ['\\', d] = t ++ ['\\'] ++ [d] := by simp
  rw [hsplit]
  by_cases hd : d = '\\'
  · rw [hd, dangles_backslash, dangles_backslash, not_not]
    exact h
  · exact not_dangles_of_last _ hd

end Text

namespace Cutter

/-- With `rest` behind it, the text is read without a cut. -/
inductive Copies (cutter : Cutter) (rest : Text) : Bool → Text → Prop where
  | nil {word : Bool} : Copies cutter rest word []
  | plain {word : Bool} {c : Char} {r : Text} (hp : ¬ cutter.Groups word c)
      (hs : span? word c (r ++ rest) = .ok none) (hm : cutter.mark? (c :: (r ++ rest)) = none)
      (h : Copies cutter rest (endsWord c) r) : Copies cutter rest word (c :: r)
  | span {word : Bool} {c : Char} {r s r' : Text} (hp : ¬ cutter.Groups word c)
      (hs : span? word c (r ++ rest) = .ok (some (s, r' ++ rest)))
      (h : Copies cutter rest (lastEndsWord s) r') : Copies cutter rest word (c :: r)

variable {cutter : Cutter}

theorem wordAfter_of_not_endsWord (h : ∀ d ∈ t, endsWord d = false) :
    wordAfter false t = false := by
  induction t with
  | nil => rfl
  | cons d t ih =>
    obtain ⟨hd, ht⟩ := List.forall_mem_cons.1 h
    change wordAfter (endsWord d) t = false
    rw [hd]
    exact ih ht

theorem firstMark_eq_none_iff {marks : List Text} {follow : Text → Bool} :
    firstMark marks follow t = none ↔
      ∀ m ∈ marks, m ≠ [] → ∀ r, t = m ++ r → follow r = false := by
  induction marks with
  | nil => simp [firstMark]
  | cons m marks ih =>
    rw [List.forall_mem_cons, ← ih, firstMark]
    cases ha : Text.after? m t with
    | none =>
      have hno (r : Text) : t ≠ m ++ r := by
        intro ht
        rw [Text.after?_eq_some_iff.2 ht] at ha
        cases ha
      simp [hno]
    | some r =>
      obtain rfl := Text.after?_eq_some_iff.1 ha
      by_cases hr : m ≠ [] ∧ follow r = true
      · simp [hr]
      · simp only [hr, if_false, List.append_cancel_left_eq, forall_eq']
        constructor
        · intro h
          refine ⟨fun hne => ?_, h⟩
          simpa [hne] using hr
        · exact fun h => h.2

/-- Text behind can undo a mark only where the mark ends the text that is kept. -/
theorem mark?_cut (h : cutter.mark? (t ++ v) = none)
    (hv : v.head? = some '=' → ∀ m ∈ cutter.marks, m ≠ [] → ¬ m <:+ t) : cutter.mark? t = none := by
  rw [mark?, firstMark_eq_none_iff] at h ⊢
  intro m hm hne r ht
  have hfollow := h m hm hne (r ++ v) (by rw [ht, List.append_assoc])
  cases r with
  | cons d r => exact hfollow
  | nil =>
    exfalso
    have he : cutter.groups = true ∧ v.head? = some '=' := by simpa using hfollow
    refine hv he.2 m hm hne ⟨[], ?_⟩
    rw [ht, List.append_nil, List.nil_append]

theorem eq_append_of_copied_span (hs : span? word c (r ++ v) = .ok (some (s, r' ++ v))) :
    c :: r = s ++ r' ∧ s ≠ [] := by
  exact eq_append_of_span? (span?_cut (o := some (s, r')) hs)

theorem escape_of_blank_end {y : Text} (hs : span? word c r = .ok (some (d :: u ++ (y ++ [e]), r')))
    (he : isBlank e = true) : u = [] ∧ d = '\\' := by
  rcases span?_ends hs with ⟨f, hf⟩ | ⟨w, f, hf, hw⟩
  · have hlen := congrArg List.length hf
    simp only [List.length_cons, List.length_append] at hlen
    exact ⟨List.eq_nil_of_length_eq_zero (by omega), (List.cons.inj hf).1⟩
  · rw [← List.append_assoc] at hw
    obtain ⟨-, hef⟩ := List.append_inj' hw rfl
    obtain rfl := (List.cons.inj hef).1
    rw [not_isBlank_of_closer hf] at he
    cases he

namespace Copies

theorem append (hs : Copies cutter (t ++ rest) word s)
    (ht : Copies cutter rest (wordAfter word s) t) :
    Copies cutter rest word (s ++ t) := by
  induction hs with
  | nil => exact ht
  | @plain word c r hp hs hm _ ih =>
    rw [← List.append_assoc] at hs hm
    exact .plain hp hs hm (ih ht)
  | @span word c r s r' hp hs _ ih =>
    obtain ⟨heq, hne⟩ := eq_append_of_copied_span hs
    rw [heq, wordAfter_append, wordAfter_of_ne_nil hne] at ht
    rw [← List.append_assoc, ← List.append_assoc] at hs
    exact .span hp hs (ih ht)

theorem of_plain (hp : ¬ cutter.Groups word c) (hs : span? word c r = .ok none)
    (hm : cutter.mark? (c :: r) = none) : Copies cutter r word [c] :=
  .plain hp hs hm .nil

theorem of_span (hp : ¬ cutter.Groups word c) (hs : span? word c r = .ok (some (s, r'))) :
    Copies cutter r' word s := by
  obtain ⟨heq, hne⟩ := eq_append_of_span? hs
  obtain ⟨d, s, rfl⟩ := List.exists_cons_of_ne_nil hne
  obtain ⟨rfl, rfl⟩ := List.cons.inj heq
  have hnil : Copies cutter r' (lastEndsWord (c :: s)) [] := .nil
  exact .span hp hs hnil

theorem behind (hb : ∀ d ∈ b, startsSpan d = false ∧ endsWord d = false)
    (h : Copies cutter rest false (b ++ u)) : Copies cutter rest false u := by
  induction b with
  | nil => exact h
  | cons d b ih =>
    obtain ⟨⟨hspan, hword⟩, hb⟩ := List.forall_mem_cons.1 hb
    rw [List.cons_append] at h
    cases h with
    | plain _ _ _ h =>
      rw [hword] at h
      exact ih hb h
    | span _ hs => cases (span?_of_not_startsSpan hspan).symm.trans hs

/-- Cutting off what follows changes nothing, unless that begins with `=` behind a mark. -/
theorem cut (h : Copies cutter (x ++ v) word u)
    (hv : v.head? = some '=' → ∀ m ∈ cutter.marks, m ≠ [] → ¬ m <:+ u ++ x) :
    Copies cutter x word u := by
  induction h with
  | nil => exact .nil
  | @plain word c r hp hs hm _ ih =>
    rw [← List.append_assoc] at hs hm
    refine .plain hp (span?_cut (o := none) hs) ?_ (ih fun he m hm hne hsuf => ?_)
    · exact mark?_cut (t := c :: (r ++ x)) hm hv
    · exact hv he m hm hne (hsuf.trans (List.suffix_cons c _))
  | @span word c r s r' hp hs _ ih =>
    have heq := (eq_append_of_copied_span hs).1
    rw [← List.append_assoc, ← List.append_assoc] at hs
    refine .span hp (span?_cut (o := some (s, r' ++ x)) hs) (ih fun he m hm hne hsuf => ?_)
    refine hv he m hm hne (hsuf.trans ?_)
    rw [heq, List.append_assoc]
    exact List.suffix_append s _

theorem unmarked (h : Copies cutter (x ++ v) word u) : Copies ⟨[], false⟩ x word u := by
  have hnone : Copies ⟨[], false⟩ (x ++ v) word u := by
    induction h with
    | nil => exact .nil
    | plain _ hs _ _ ih => exact .plain (by simp [Groups]) hs rfl ih
    | span _ hs _ ih => exact .span (by simp [Groups]) hs ih
  exact hnone.cut fun _ m hm => absurd hm (by simp)

/-- Blanks at the end can be cut off; where the first of them is escaped, its backslash stays. -/
theorem trimmed (hb : b.Blank) (h : Copies cutter rest word (u ++ b)) :
    ∃ w x, u = w ++ x ∧ Copies cutter (x ++ (b ++ rest)) word w ∧
    (x = [] ∨ x = ['\\'] ∧ b ≠ []) := by
  generalize ht : u ++ b = t at h
  induction h generalizing u with
  | nil =>
    obtain ⟨rfl, rfl⟩ := List.append_eq_nil_iff.1 ht
    exact ⟨[], [], rfl, .nil, .inl rfl⟩
  | @plain word c r hp hs hm _ ih =>
    cases u with
    | nil => exact ⟨[], [], rfl, .nil, .inl rfl⟩
    | cons d u =>
      obtain ⟨rfl, rfl⟩ := List.cons.inj ht
      obtain ⟨w, x, rfl, hw, hx⟩ := ih rfl
      have hassoc : List.append (w ++ x) b ++ rest = w ++ (x ++ (b ++ rest)) := by
        change w ++ x ++ b ++ rest = _
        simp only [List.append_assoc]
      rw [hassoc] at hs hm
      exact ⟨d :: w, x, rfl, .plain hp hs hm hw, hx⟩
  | @span word c r s r' hp hs _ ih =>
    obtain ⟨heq, hne⟩ := eq_append_of_copied_span hs
    obtain ⟨e, s₀, rfl⟩ := List.exists_cons_of_ne_nil hne
    obtain rfl : c = e := (List.cons.inj heq).1
    obtain rfl : r = s₀ ++ r' := (List.cons.inj heq).2
    rcases List.append_eq_append_iff.1 (ht.trans heq) with ⟨y, hsy, rfl⟩ | ⟨y, rfl, rfl⟩
    · -- the blanks begin right behind the span, or within it, and then it is an escape
      rcases List.eq_nil_or_concat y with rfl | ⟨y, d, rfl⟩
      · rw [List.append_nil] at hsy
        have hspan : span? word c (s₀ ++ ([] ++ ([] ++ r' ++ rest))) =
            .ok (some (c :: s₀, [] ++ ([] ++ ([] ++ r' ++ rest)))) := by
          simpa using hs
        exact ⟨c :: s₀, [], by rw [hsy, List.append_nil], .span hp hspan .nil, .inl rfl⟩
      · cases u with
        | nil => exact ⟨[], [], rfl, .nil, .inl rfl⟩
        | cons f u =>
          rw [hsy, List.concat_eq_append] at hs
          obtain ⟨rfl, rfl⟩ := escape_of_blank_end hs (hb d (by simp))
          exact ⟨[], ['\\'], rfl, .nil, .inr ⟨rfl, by simp⟩⟩
    · obtain ⟨w, x, rfl, hw, hx⟩ := ih rfl
      refine ⟨c :: (s₀ ++ w), x, by simp, .span hp ?_ hw, hx⟩
      simpa only [List.append_assoc] using hs

/-- The text without the blanks around it; `x` is what is left of an escape that was cut. -/
theorem trim (h : Copies cutter rest false t) :
    ∃ b b' w x, Text.Blank b' ∧ t = b ++ (w ++ x ++ b') ∧
    t.trim = w ++ x ∧ Copies cutter (x ++ (b' ++ rest)) false w ∧
    (x = [] ∨ x = ['\\'] ∧ b' ≠ []) := by
  obtain ⟨b, b', hb, hb', ht⟩ := Text.exists_blanks t
  rw [ht] at h
  obtain ⟨w, x, hsplit, hw, hx⟩ := (h.behind fun d hd => plain_of_isBlank (hb d hd)).trimmed hb'
  exact ⟨b, b', w, x, hb', hsplit ▸ ht, hsplit, hw, hx⟩

theorem not_dangles (ht : ¬ t.Dangles) (h : Copies cutter rest word u) :
    ¬ Text.Dangles (t ++ u) := by
  induction h generalizing t with
  | nil => rwa [List.append_nil]
  | @plain word c r _ hs _ _ ih =>
    have hc : c ≠ '\\' := by
      rintro rfl
      rw [span?, if_pos (.inl rfl)] at hs
      obtain ⟨p, -, hp⟩ := exists_of_map_eq_ok hs
      cases hp
    rw [List.append_cons]
    exact ih (Text.not_dangles_of_last t hc)
  | @span word c r s r' _ hs _ ih =>
    rw [(eq_append_of_copied_span hs).1, ← List.append_assoc]
    refine ih ?_
    rcases span?_ends hs with ⟨d, rfl⟩ | ⟨w, d, hd, rfl⟩
    · exact Text.not_dangles_escape d ht
    · rw [← List.append_assoc]
      refine Text.not_dangles_of_last _ ?_
      rintro rfl
      exact absurd hd (by decide)

theorem assemble {hook : Text → Except Error Text} {fail : Stop → Error}
    {stack : List (Text × Level)} {level : Level} (h : Copies cutter rest word u) :
    Token.assemble hook fail (cutter.pieces word (u ++ rest)).stop stack level
        (cutter.pieces word (u ++ rest)).pieces =
      Token.assemble hook fail (cutter.pieces (wordAfter word u) rest).stop stack (level.add u)
        (cutter.pieces (wordAfter word u) rest).pieces := by
  induction h generalizing level with
  | nil =>
    rw [Level.add_nil]
    rfl
  | @plain word c r hp hs hm _ ih =>
    have hadd := @ih (level.add [c])
    rw [Level.add_add] at hadd
    rw [List.cons_append, pieces_plain hp hs hm]
    exact hadd
  | @span word c r s r' hp hs _ ih =>
    obtain ⟨heq, hne⟩ := eq_append_of_copied_span hs
    have hadd := @ih (level.add s)
    rw [Level.add_add] at hadd
    rw [List.cons_append, pieces_span hp hs, heq, wordAfter_append, wordAfter_of_ne_nil hne]
    exact hadd

end Copies

/-- Marks like those of the operators: none of their characters begins a span or ends a word. -/
structure Symbolic (cutter : Cutter) : Prop where
  flat : cutter.groups = false
  marks : ∀ m ∈ cutter.marks, ∀ d ∈ m, startsSpan d = false ∧ endsWord d = false

theorem Symbolic.within {m r₀ : Text} (h : r ++ rest = m ++ r₀)
    (hrest : ∀ e ∈ m, rest.head? ≠ some e) :
    ∃ b, r = m ++ b ∧ r₀ = b ++ rest := by
  rcases List.append_eq_append_iff.1 h with ⟨y, rfl, hy⟩ | ⟨b, hb, hr⟩
  · cases y with
    | nil => exact ⟨[], by simp, by simpa using hy.symm⟩
    | cons e y =>
      refine absurd ?_ (hrest e (by simp))
      rw [hy]
      rfl
  · exact ⟨b, hb, hr⟩

theorem Symbolic.stop {signs : Cutter} (hs : signs.Symbolic) (h : Copies cutter rest word u)
    (hrest : ∀ m ∈ signs.marks, ∀ d ∈ m, rest.head? ≠ some d) :
    (signs.pieces word (u ++ rest)).stop = (signs.pieces (wordAfter word u) rest).stop := by
  have hp (word : Bool) (c : Char) : ¬ signs.Groups word c := by
    intro hg
    exact absurd hg.1 (by simp [hs.flat])
  induction hn : u.length using Nat.strongRecOn generalizing u word with
  | _ n ih =>
  subst hn
  cases h with
  | nil => rfl
  | @plain _ c r _ hspan _ h =>
    rw [List.cons_append]
    cases hmark : signs.mark? (c :: (r ++ rest)) with
    | none =>
      rw [pieces_plain (hp word c) hspan hmark]
      exact ih _ (by simp) h rfl
    | some p =>
      obtain ⟨m, r₀⟩ := p
      rw [pieces_mark (hp word c) hspan hmark]
      obtain ⟨heq, hne⟩ := eq_append_of_firstMark hmark
      have hm := mem_of_firstMark hmark
      obtain ⟨d, m, rfl⟩ := List.exists_cons_of_ne_nil hne
      obtain rfl : c = d := (List.cons.inj heq).1
      replace heq : r ++ rest = m ++ r₀ := (List.cons.inj heq).2
      obtain ⟨hc, htail⟩ := List.forall_mem_cons.1 (hs.marks _ hm)
      obtain ⟨b, rfl, rfl⟩ :=
        Symbolic.within heq fun e he => hrest _ hm e (List.mem_cons_of_mem _ he)
      rw [hc.2] at h
      have hafter : wordAfter word (c :: (m ++ b)) = wordAfter false b := by
        change wordAfter (endsWord c) (m ++ b) = _
        rw [hc.2, wordAfter_append, wordAfter_of_not_endsWord fun d hd => (htail d hd).2]
      rw [hafter]
      refine ih b.length ?_ (h.behind htail) rfl
      simp only [List.length_cons, List.length_append]
      omega
  | @span _ c r s r' _ hspan h =>
    obtain ⟨heq, hne⟩ := eq_append_of_copied_span hspan
    rw [List.cons_append, pieces_span (hp word c) hspan, heq, wordAfter_append,
      wordAfter_of_ne_nil hne]
    refine ih r'.length ?_ h rfl
    have := congrArg List.length heq
    have := List.length_pos_iff.2 hne
    simp only [List.length_cons, List.length_append] at *
    omega

end Cutter

end QueryShorthand
