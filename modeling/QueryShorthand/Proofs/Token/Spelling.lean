import QueryShorthand.Proofs.Token.Scan

/-! Written one after another, the tokens of a text are that text less some blanks. -/
namespace QueryShorthand

namespace Text

/-- The second text is the first one with some of its blanks left out. -/
inductive Thinned : Text → Text → Prop where
  | nil : Thinned [] []
  | keep {s t : Text} (c : Char) (h : Thinned s t) : Thinned (c :: s) (c :: t)
  | drop {s t : Text} {c : Char} (hc : isBlank c = true) (h : Thinned s t) : Thinned (c :: s) t

def inked (t : Text) : Text := t.filter fun c => !isBlank c

variable {s t u v b : Text}

theorem Thinned.refl (t : Text) : Thinned t t := by
  induction t with
  | nil => exact .nil
  | cons c t ih => exact .keep c ih

theorem Thinned.append (h : Thinned s t) (h' : Thinned u v) : Thinned (s ++ u) (t ++ v) := by
  induction h with
  | nil => exact h'
  | keep c _ ih => exact .keep c ih
  | drop hc _ ih => exact .drop hc ih

theorem Thinned.trans (h : Thinned s t) (h' : Thinned t u) : Thinned s u := by
  induction h generalizing u with
  | nil => exact h'
  | keep c _ ih =>
    cases h' with
    | keep _ h' => exact .keep c (ih h')
    | drop hc h' => exact .drop hc (ih h')
  | drop hc _ ih => exact .drop hc (ih h')

theorem Blank.thinned (h : Blank b) : Thinned b [] := by
  induction b with
  | nil => exact .nil
  | cons c b ih =>
    obtain ⟨hc, hb⟩ := List.forall_mem_cons.1 h
    exact .drop hc (ih hb)

theorem thinned_trim (t : Text) : Thinned t t.trim := by
  obtain ⟨b, b', hb, hb', ht⟩ := exists_blanks t
  have hsplit := hb.thinned.append ((Thinned.refl t.trim).append hb'.thinned)
  rwa [← ht, List.nil_append, List.append_nil] at hsplit

theorem Thinned.inked_eq (h : Thinned s t) : t.inked = s.inked := by
  induction h with
  | nil => rfl
  | keep c _ ih => rw [inked, inked, List.filter_cons, List.filter_cons, ← inked, ih, inked]
  | drop hc _ ih => rw [ih, inked, inked, List.filter_cons_of_neg (by simp [hc])]

theorem Thinned.eq_of_forall (h : Thinned s t) (hs : ∀ c ∈ s, isBlank c = false) : t = s := by
  induction h with
  | nil => rfl
  | keep c _ ih => rw [ih fun d hd => hs d (List.mem_cons_of_mem c hd)]
  | @drop s t c hc _ _ =>
    have hc' := hs c List.mem_cons_self
    rw [hc] at hc'
    cases hc'

end Text

open Text (Thinned inked)

theorem Token.writtenAll_append (xs ys : List Token) :
    writtenAll (xs ++ ys) = writtenAll xs ++ writtenAll ys := by
  induction xs with
  | nil => rfl
  | cons x xs ih => rw [List.cons_append, writtenAll, writtenAll, ih, List.append_assoc]

namespace Level

def writtenGroup (p : Text × List Token) : Text := p.1 ++ '(' :: (Token.writtenAll p.2 ++ [')'])

/-- What was read on the level so far, trimmed up to its last token. -/
def spelled (level : Level) : Text :=
  Token.writtenAll level.tokens ++ (level.group.elim [] writtenGroup ++ level.text)

theorem thinned_complete (level : Level) :
    Thinned level.spelled (Token.writtenAll level.complete) := by
  obtain ⟨tokens, group, text⟩ := level
  rw [spelled, complete, Token.writtenAll_append]
  refine (Thinned.refl _).append ?_
  have htrim := Text.thinned_trim text
  cases group with
  | some p =>
    have hgroup := (Thinned.refl (writtenGroup p)).append htrim
    simpa [last, Token.writtenAll, Token.written, writtenGroup] using hgroup
  | none =>
    simp only [last, Option.elim_none, List.nil_append]
    split
    · next ht => rwa [ht] at htrim
    · simpa [Token.writtenAll, Token.written] using htrim

theorem spelled_add (level : Level) (t : Text) : (level.add t).spelled = level.spelled ++ t := by
  simp [spelled, add]

end Level

namespace Cutter

/-- What was read so far, with the parentheses that are still open; the innermost level comes
first. -/
def spelled : List Level → Text
  | [] => []
  | [level] => level.spelled
  | level :: outer => spelled outer ++ '(' :: level.spelled

variable {cutter : Cutter} {levels : List Level} {level level' : Level} {word : Bool} {t u : Text}
  {ts : List Token}

theorem thinned_spelled (h : Thinned (level.spelled ++ t) (level'.spelled ++ u)) :
    Thinned (spelled (level :: levels) ++ t) (spelled (level' :: levels) ++ u) := by
  cases levels with
  | nil => exact h
  | cons outer levels =>
    simp only [spelled, List.append_assoc, List.cons_append]
    exact (Thinned.refl _).append (.keep '(' h)

theorem thinned_closed {outer : Level} (ho : outer.group = none) (r : Text) :
    Thinned (spelled (level :: outer :: levels) ++ ')' :: r)
      (spelled ({ tokens := outer.tokens, group := some (outer.text.trim, level.complete) } ::
        levels) ++ r) := by
  have hgroup : Thinned (outer.spelled ++ '(' :: (level.spelled ++ [')']))
      (Level.spelled
        { tokens := outer.tokens, group := some (outer.text.trim, level.complete) }) := by
    have hinner : Thinned ('(' :: (level.spelled ++ [')']))
        ('(' :: (Token.writtenAll level.complete ++ [')'])) :=
      .keep '(' (level.thinned_complete.append (.refl _))
    have hlead := ((Thinned.refl (Token.writtenAll outer.tokens)).append
      (Text.thinned_trim outer.text)).append hinner
    simpa [Level.spelled, Level.writtenGroup, ho] using hlead
  have hwritten : Thinned (outer.spelled ++ '(' :: (level.spelled ++ ')' :: r))
      (Level.spelled { tokens := outer.tokens, group := some (outer.text.trim, level.complete) } ++
        r) := by
    simpa using hgroup.append (Thinned.refl r)
  simp only [spelled, List.append_assoc, List.cons_append]
  exact thinned_spelled hwritten

/-- Step by step, reading copies what it passes. -/
theorem Scans.thinned (h : Scans cutter levels word t ts) :
    Thinned (spelled levels ++ t) (Token.writtenAll ts) := by
  induction h with
  | @done level word => simpa [spelled] using level.thinned_complete
  | @opened level levels r ts _ _ _ ih => simpa [spelled, Level.spelled, Token.writtenAll] using ih
  | closed _ ho _ ih => exact (thinned_closed ho _).trans ih
  | @span level levels word c r s r' ts _ hs _ ih =>
    refine (thinned_spelled ?_).trans ih
    rw [(eq_append_of_span? hs).1, Level.spelled_add, List.append_assoc]
    exact .refl _
  | @mark level levels word c r m r' ts _ _ hm _ ih =>
    refine (thinned_spelled ?_).trans ih
    rw [(eq_append_of_firstMark hm).1]
    simpa [Level.spelled, Token.writtenAll_append, Token.writtenAll, Token.written] using
      level.thinned_complete.append (Thinned.refl (m ++ r'))
  | @plain level levels word c r ts _ _ _ _ ih =>
    refine (thinned_spelled ?_).trans ih
    rw [Level.spelled_add, List.append_assoc]
    exact .refl _

end Cutter

namespace Token

/-- Nothing is lost or doubled: the written tokens are the text less some blanks. -/
theorem thinned_of_read {delimiters : List Text} {input : Text} {tokens : List Token}
    (h : read delimiters input = .ok tokens) :
    Thinned input (writtenAll tokens) ∧ inked (writtenAll tokens) = inked input ∧
      ((∀ c ∈ input, isBlank c = false) → writtenAll tokens = input) := by
  have hthin : Thinned input (writtenAll tokens) := (Cutter.read_eq_ok_iff.1 h).thinned
  exact ⟨hthin, hthin.inked_eq, hthin.eq_of_forall⟩

/-- Blanks around tokens go, those inside a token stay. -/
theorem thinned_of_read_blanks : ∃ tokens,
    read [[','], ['|']] "! ( a = 'x y' | f(b, c) ) [ d ] ,e\\ ".toList = .ok tokens ∧
      Thinned "! ( a = 'x y' | f(b, c) ) [ d ] ,e\\ ".toList (writtenAll tokens) ∧
      writtenAll tokens = "!(a = 'x y'|f(b, c))[ d ],e\\".toList := by
  have hread : (read [[','], ['|']] "! ( a = 'x y' | f(b, c) ) [ d ] ,e\\ ".toList).map writtenAll =
      .ok "!(a = 'x y'|f(b, c))[ d ],e\\".toList := by decide +kernel
  obtain ⟨tokens, h, hw⟩ := exists_of_map_eq_ok hread
  exact ⟨tokens, h, (thinned_of_read h).1, hw⟩

end Token

end QueryShorthand
