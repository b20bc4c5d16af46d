import QueryShorthand.Proofs.Operand.Sound
import QueryShorthand.Proofs.Token.Inside

/-! Texts that are read as a whole: never cut, and unchanged when they are trimmed. -/
namespace QueryShorthand

theorem disjoint_ranges {a b : List CodeRange}
    (h : ∀ r ∈ a, ∀ s ∈ b, r.2 < s.1 ∨ s.2 < r.1) {c : Char} (ha : inRanges a c = true) :
    inRanges b c = false := by
  by_contra hb
  simp only [inRanges, Bool.not_eq_false, List.any_eq_true, Bool.and_eq_true, decide_eq_true_eq]
    at ha hb
  obtain ⟨r, hr, hr1, hr2⟩ := ha
  obtain ⟨s, hs, hs1, hs2⟩ := hb
  rcases h r hr s hs with h | h <;> omega

theorem not_isWordChar_of_isBlank {c : Char} (h : isBlank c = true) : isWordChar c = false := by
  by_cases hc : c.toNat < 128
  · exact forall_ascii (p := fun c => isBlank c = true → isWordChar c = false) (by decide) hc h
  · rw [isWordChar, if_neg hc]
    exact disjoint_ranges (by decide +kernel) h

theorem not_isDecimalDigit_of_isBlank {c : Char} (h : isBlank c = true) :
    isDecimalDigit c = false :=
  disjoint_ranges (by decide +kernel) h

theorem not_endsWord_of_isBlank {c : Char} (h : isBlank c = true) : endsWord c = false := by
  by_cases hc : c.toNat < 128
  · exact forall_ascii (p := fun c => isBlank c = true → endsWord c = false) (by decide) hc h
  · have hunder : c ≠ '_' := by
      rintro rfl
      exact hc (by decide)
    have hletter : inRanges alphanumericRanges c = false := disjoint_ranges (by decide +kernel) h
    simp [endsWord, isAlphanumeric, hc, hunder, hletter]

theorem isBlank_of_isWordChar {c : Char} (h : isWordChar c = true) : isBlank c = false := by
  by_contra hb
  simp [not_isWordChar_of_isBlank (Bool.not_eq_false _ ▸ hb)] at h

theorem isBlank_of_isDecimalDigit {c : Char} (h : isDecimalDigit c = true) : isBlank c = false := by
  by_contra hb
  simp [not_isDecimalDigit_of_isBlank (Bool.not_eq_false _ ▸ hb)] at h

theorem not_special_of_isBlank {c : Char} (h : isBlank c = true) : c ∉ specials := by
  have all : ∀ d ∈ specials, isBlank d = false := Text.forall_mem_of_all (by decide)
  intro hc
  simp [all c hc] at h

theorem not_special_of_isWordChar {c : Char} (h : isWordChar c = true) : c ∉ specials := by
  have all : ∀ d ∈ specials, isWordChar d = false := Text.forall_mem_of_all (by decide)
  intro hc
  simp [all c hc] at h

theorem not_special_of_isDecimalDigit {c : Char} (h : isDecimalDigit c = true) : c ∉ specials := by
  have all : ∀ d ∈ specials, isDecimalDigit d = false := Text.forall_mem_of_all (by decide)
  intro hc
  simp [all c hc] at h

/-- The text neither begins nor ends with a blank, is never cut, and may stand between parentheses.
Its first character is no negation and continues no operator. -/
structure Solid (t : Text) : Prop where
  head : ∃ c r, t = c :: r ∧ isBlank c = false ∧ c ∉ ['!', '=', '<', '>']
  last : ∃ c, t.getLast? = some c ∧ isBlank c = false
  inside : ∀ {cutter : Cutter} {word : Bool}, cutter.Usual → cutter.Inside word t
  balanced : Balanced '(' ')' t

variable {s t : Text}

theorem Solid.append (hs : Solid s) (ht : Solid t) : Solid (s ++ t) where
  head := by
    obtain ⟨c, r, rfl, hc⟩ := hs.head
    exact ⟨c, r ++ t, rfl, hc⟩
  last := by
    obtain ⟨c, hc, hb⟩ := ht.last
    exact ⟨c, by rw [List.getLast?_append, hc]; rfl, hb⟩
  inside hu := (hs.inside hu).append (ht.inside hu)
  balanced := hs.balanced.append ht.balanced

theorem Solid.trim (h : Solid t) : t.trim = t := by
  obtain ⟨c, r, rfl, hc, -⟩ := h.head
  obtain ⟨d, hd, hb⟩ := h.last
  exact Text.trim_of_ends rfl hc hd hb

theorem inside_blank {b : Text} {cutter : Cutter} {word : Bool} (hu : cutter.Usual) (hb : b.Blank) :
    cutter.Inside word b :=
  Cutter.inside_chars hu.specials fun c hc => not_special_of_isBlank (hb c hc)

variable {b b' : Text}

theorem Solid.trim_padded (h : Solid t) (hb : b.Blank) (hb' : b'.Blank) :
    (b ++ (t ++ b')).trim = t := by
  rw [Text.trim_padded hb hb', h.trim]

theorem Solid.head?_padded (h : Solid t) (hb : b.Blank) {c : Char} (hc : c ∈ ['!', '=', '<', '>']) :
    (b ++ (t ++ b')).head? ≠ some c := by
  cases b with
  | nil =>
    obtain ⟨d, r, rfl, -, hd⟩ := h.head
    intro heq
    cases heq
    exact hd hc
  | cons d b =>
    have hblank : ∀ e ∈ ['!', '=', '<', '>'], isBlank e = false :=
      Text.forall_mem_of_all (by decide)
    intro heq
    cases heq
    have hd := hb c List.mem_cons_self
    simp [hblank c hc] at hd

theorem Solid.ne_nil (h : Solid t) : t ≠ [] := by
  obtain ⟨c, r, rfl, -⟩ := h.head
  simp

theorem balanced_of_not_special {o cl : Char} (ho : o ∈ specials)
    (h : ∀ c ∈ t, c ∉ specials ∧ c ≠ cl) : Balanced o cl t := by
  have ne {c d : Char} (hc : c ∉ specials) (hd : d ∈ specials) : c ≠ d := by
    rintro rfl
    exact hc hd
  refine balanced_chars fun c hc => ?_
  obtain ⟨hc, hcl⟩ := h c hc
  have hquote : isQuote c = false := by
    simp [isQuote, ne hc (by decide : '\'' ∈ specials), ne hc (by decide : '"' ∈ specials),
      ne hc (by decide : '\x60' ∈ specials)]
  exact ⟨⟨ne hc (by decide), hquote⟩, ne hc ho, hcl⟩

theorem balanced_not_special (h : ∀ c ∈ t, c ∉ specials) : Balanced '(' ')' t := by
  refine balanced_of_not_special (by decide) fun c hc => ⟨h c hc, ?_⟩
  rintro rfl
  exact h _ hc (by decide)

theorem solid_chars (hne : t ≠ []) (h : ∀ c ∈ t, c ∉ specials ∧ isBlank c = false) : Solid t where
  head := by
    obtain ⟨c, r, rfl⟩ := List.exists_cons_of_ne_nil hne
    obtain ⟨hc, hb⟩ := h c List.mem_cons_self
    refine ⟨c, r, rfl, hb, fun hm => hc ?_⟩
    exact (Text.forall_mem_of_all (by decide) : ∀ d ∈ ['!', '=', '<', '>'], d ∈ specials) c hm
  last := ⟨_, List.getLast?_eq_some_getLast hne, (h _ (List.getLast_mem hne)).2⟩
  inside hu := Cutter.inside_chars hu.specials fun c hc => (h c hc).1
  balanced := balanced_not_special fun c hc => (h c hc).1

theorem Solid.dotted (hs : Solid s) (ht : Solid t) : Solid (s ++ '.' :: t) := by
  have hdot : Solid ['.'] := solid_chars (by simp) (Text.forall_mem_of_all (by decide))
  exact hs.append (hdot.append ht)

theorem solid_span {o cl : Char} (ho : isBlank o = false ∧ o ∉ ['!', '=', '<', '>'])
    (hcl : isBlank cl = false)
    (hi : ∀ {cutter : Cutter} {word : Bool}, cutter.Usual → cutter.Inside word (o :: (t ++ [cl])))
    (hb : Balanced '(' ')' (o :: (t ++ [cl]))) : Solid (o :: (t ++ [cl])) where
  head := ⟨o, _, rfl, ho⟩
  last := ⟨cl, by simp [List.getLast?_cons], hcl⟩
  inside := hi
  balanced := hb

theorem solid_quoted {q : Char} (hq : isQuote q = true) (h : Quotes q t) :
    Solid (q :: (t ++ [q])) := by
  have hopen : isBlank q = false ∧ q ∉ ['!', '=', '<', '>'] := by
    rcases isQuote_iff.1 hq with rfl | rfl | rfl <;> decide
  exact solid_span hopen hopen.1 (fun _ => Cutter.inside_quoted hq h) (balanced_quoted hq h)

theorem solid_bracketed (hs : Balanced '[' ']' t) (hr : Balanced '(' ')' t) :
    Solid ('[' :: (t ++ [']'])) :=
  solid_span (by decide) (by decide) (fun _ => Cutter.inside_bracketed hs)
    (encloseJson_round.array t hr)

theorem solid_call {name : Text} (hn : Solid name) (hw : lastEndsWord name = true)
    (h : Balanced '(' ')' t) : Solid (name ++ '(' :: (t ++ [')'])) where
  head := by
    obtain ⟨c, r, rfl, hc⟩ := hn.head
    exact ⟨c, _, rfl, hc⟩
  last := ⟨')', by simp [List.getLast?_append, List.getLast?_cons], by decide⟩
  inside hu := by
    obtain ⟨c, r, rfl, -⟩ := hn.head
    refine (hn.inside hu).append ?_
    rw [Cutter.wordAfter_of_ne_nil (by simp), hw]
    exact Cutter.inside_arguments h
  balanced := hn.balanced.append (h.nested brackets_round)

theorem solid_arrow (scalar : Bool) (ht : t.head? = some '\'') (h : Solid t) :
    Solid (Column.arrow scalar ++ t) where
  head := by cases scalar <;> exact ⟨'-', _, rfl, by decide⟩
  last := by
    obtain ⟨c, hc, hb⟩ := h.last
    exact ⟨c, by rw [List.getLast?_append, hc]; rfl, hb⟩
  inside hu := Cutter.inside_arrow scalar ht (h.inside hu)
  balanced := by
    have harrow : Balanced '(' ')' (Column.arrow scalar) := by
      refine balanced_chars (Text.forall_mem_of_all ?_)
      cases scalar <;> decide
    exact harrow.append h.balanced

theorem solid_colon (h : Solid t) : Solid (':' :: t) where
  head := ⟨':', t, rfl, by decide⟩
  last := by
    obtain ⟨c, hc, hb⟩ := h.last
    exact ⟨c, by rw [List.getLast?_cons, hc]; rfl, hb⟩
  inside hu := by
    obtain ⟨c, r, rfl, -, hc⟩ := h.head
    exact Cutter.inside_colon hu (fun heq => hc (by simp [heq])) (h.inside hu)
  balanced := by
    have hcolon : Balanced '(' ')' [':'] := balanced_char (by decide) (by decide) (by decide)
    exact hcolon.append h.balanced

end QueryShorthand
