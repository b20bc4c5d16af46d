import QueryShorthand.Proofs.Token.Inside

/-! Texts that yield tokens, whatever follows. -/
namespace QueryShorthand.Cutter

variable {cutter : Cutter} {t u w : Text} {xs ys : List Token}

/-- Read at the start of a leaf, the text adds these tokens to its level and is at their end. -/
def Yields (cutter : Cutter) (t : Text) (tokens : List Token) : Prop :=
  ∀ (pre : List Token) (base : List Level) (v : Text) (us : List Token),
    (∀ level word, level.complete = pre ++ tokens → cutter.Scans (level :: base) word v us) →
      cutter.Scans ({ tokens := pre } :: base) false (t ++ v) us

/-- Read at the end of a token, the text adds these tokens and is at their end again. -/
def Extends (cutter : Cutter) (t : Text) (tokens : List Token) : Prop :=
  ∀ (before : Level) (start : Bool) (base : List Level) (v : Text) (us : List Token),
    (∀ level word, level.complete = before.complete ++ tokens →
      cutter.Scans (level :: base) word v us) → cutter.Scans (before :: base) start (t ++ v) us

theorem extends_nil : cutter.Extends [] [] := by
  intro before start base v us h
  exact h before start (List.append_nil _).symm

theorem Yields.append (ht : cutter.Yields t xs) (hu : cutter.Extends u ys) :
    cutter.Yields (t ++ u) (xs ++ ys) := by
  intro pre base v us h
  rw [List.append_assoc]
  refine ht pre base (u ++ v) us fun level word hl => ?_
  refine hu level word base v us fun level' word' hl' => h level' word' ?_
  rw [hl', hl, List.append_assoc]

theorem Yields.behind {c : Char} {m : Text} (hgroup : ∀ word, ¬ cutter.Groups word c)
    (hspan : ∀ word v, span? word c (m ++ (t ++ v)) = .ok none)
    (hmark : ∀ v, cutter.mark? (c :: (m ++ (t ++ v))) = some (c :: m, t ++ v))
    (h : cutter.Yields t xs) : cutter.Extends (c :: (m ++ t)) (.combinator (c :: m) :: xs) := by
  intro before start base v us hv
  rw [List.cons_append, List.append_assoc]
  refine .mark (hgroup start) (hspan start v) (hmark v) ?_
  refine h _ base v us fun level word hl => hv level word ?_
  rw [hl, List.append_assoc]
  rfl

theorem yields_leaf (h : cutter.Inside false t) (htrim : t.trim = t) (hne : t ≠ []) :
    cutter.Yields t [.leaf t] := by
  intro pre base v us hv
  refine h.scans (hv _ _ ?_)
  simp [Level.complete, Level.last, Level.add, htrim, hne]

theorem Yields.group (hc : cutter.groups = true) (h : cutter.Yields t xs)
    (hw : cutter.Inside false w) (htrim : w.trim = w) :
    cutter.Yields ('(' :: (t ++ [')']) ++ w) [.group [] xs w] := by
  intro pre base v us hv
  have htext : '(' :: (t ++ [')']) ++ w ++ v = '(' :: (t ++ ')' :: (w ++ v)) := by simp
  rw [htext]
  refine .opened hc rfl (h [] _ _ us fun level word hl => ?_)
  refine .closed hc rfl (hw.scans (hv _ _ ?_))
  obtain rfl : level.complete = xs := hl
  have hlead : Text.trim [] = [] := rfl
  rw [Level.complete, Level.last]
  simp [Level.add, htrim, hlead]

end QueryShorthand.Cutter
