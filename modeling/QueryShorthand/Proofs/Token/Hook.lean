import QueryShorthand.Proofs.Token.Level
import QueryShorthand.Proofs.Token.Span

/-! Reading in one pass with a hook is reading without it, and then replacing each leaf. -/
namespace QueryShorthand

namespace Cutter

def Groups (cutter : Cutter) (word : Bool) (c : Char) : Prop :=
  cutter.groups = true ∧ (c = '(' ∧ word = false ∨ c = ')')

/-- Read with the given levels open, the innermost first, a text yields the tokens of the
outermost. -/
inductive Scans (cutter : Cutter) : List Level → Bool → Text → List Token → Prop where
  | done {level : Level} {word : Bool} : Scans cutter [level] word [] level.complete
  | opened {level : Level} {levels : List Level} {r : Text} {ts : List Token}
      (hc : cutter.groups = true) (hg : level.group = none)
      (h : Scans cutter ({} :: level :: levels) false r ts) :
      Scans cutter (level :: levels) false ('(' :: r) ts
  | closed {level outer : Level} {levels : List Level} {word : Bool} {r : Text} {ts : List Token}
      (hc : cutter.groups = true) (ho : outer.group = none)
      (h : Scans cutter
        ({ tokens := outer.tokens, group := some (outer.text.trim, level.complete) } :: levels)
        false r ts) :
      Scans cutter (level :: outer :: levels) word (')' :: r) ts
  | span {level : Level} {levels : List Level} {word : Bool} {c : Char} {r s r' : Text}
      {ts : List Token} (hp : ¬ cutter.Groups word c) (hs : span? word c r = .ok (some (s, r')))
      (h : Scans cutter (level.add s :: levels) (lastEndsWord s) r' ts) :
      Scans cutter (level :: levels) word (c :: r) ts
  | mark {level : Level} {levels : List Level} {word : Bool} {c : Char} {r m r' : Text}
      {ts : List Token} (hp : ¬ cutter.Groups word c) (hs : span? word c r = .ok none)
      (hm : cutter.mark? (c :: r) = some (m, r'))
      (h : Scans cutter ({ tokens := level.complete ++ [.combinator m] } :: levels) false r' ts) :
      Scans cutter (level :: levels) word (c :: r) ts
  | plain {level : Level} {levels : List Level} {word : Bool} {c : Char} {r : Text}
      {ts : List Token} (hp : ¬ cutter.Groups word c) (hs : span? word c r = .ok none)
      (hm : cutter.mark? (c :: r) = none)
      (h : Scans cutter (level.add [c] :: levels) (endsWord c) r ts) :
      Scans cutter (level :: levels) word (c :: r) ts

variable {cutter : Cutter} {levels : List Level} {word : Bool} {c : Char} {r s r' m t : Text}
  {ts us : List Token} {fail : Stop → Error} {level : Level} {stack : List (Text × Level)}
  {hook : Text → Except Error Text} {f : Text → Text} {delimiters : List Text}

theorem pieces_opened (hc : cutter.groups = true) : cutter.pieces false ('(' :: r) =
    (cutter.pieces false r).after (.opened ('(' :: r)) := by
  rw [pieces, if_pos ⟨hc, rfl, rfl⟩]

theorem pieces_closed (hc : cutter.groups = true) : cutter.pieces word (')' :: r) =
    (cutter.pieces false r).after (.closed (')' :: r)) := by
  rw [pieces, if_neg (by simp), if_pos ⟨hc, rfl⟩]

theorem pieces_span (hp : ¬ cutter.Groups word c) (hs : span? word c r = .ok (some (s, r'))) :
    cutter.pieces word (c :: r) = (cutter.pieces (lastEndsWord s) r').after (.span s) := by
  rw [pieces, if_neg (by grind [Groups]), if_neg (by grind [Groups])]
  split <;> simp_all

theorem pieces_mark (hp : ¬ cutter.Groups word c) (hs : span? word c r = .ok none)
    (hm : cutter.mark? (c :: r) = some (m, r')) :
    cutter.pieces word (c :: r) = (cutter.pieces false r').after (.mark m) := by
  rw [pieces, if_neg (by grind [Groups]), if_neg (by grind [Groups])]
  split
  · simp_all
  · simp_all
  · split <;> simp_all

theorem pieces_plain (hp : ¬ cutter.Groups word c) (hs : span? word c r = .ok none)
    (hm : cutter.mark? (c :: r) = none) :
    cutter.pieces word (c :: r) = (cutter.pieces (endsWord c) r).after (.plain c) := by
  rw [pieces, if_neg (by grind [Groups]), if_neg (by grind [Groups])]
  split
  · simp_all
  · simp_all
  · split <;> simp_all

theorem scans_opened_iff (hc : cutter.groups = true) :
    Scans cutter (level :: levels) false ('(' :: r) ts ↔
      level.group = none ∧ Scans cutter ({} :: level :: levels) false r ts := by
  refine ⟨fun h => ?_, fun h => .opened hc h.1 h.2⟩
  cases h with
  | opened _ hg h => exact ⟨hg, h⟩
  | span hp | mark hp | plain hp => exact absurd ⟨hc, .inl ⟨rfl, rfl⟩⟩ hp

theorem scans_closed_iff (hc : cutter.groups = true) :
    Scans cutter (level :: levels) word (')' :: r) ts ↔
      ∃ outer rest, levels = outer :: rest ∧ outer.group = none ∧ Scans cutter
        ({ tokens := outer.tokens, group := some (outer.text.trim, level.complete) } :: rest) false
          r ts := by
  constructor
  · intro h
    cases h with
    | closed _ ho h => exact ⟨_, _, rfl, ho, h⟩
    | span hp | mark hp | plain hp => exact absurd ⟨hc, .inr rfl⟩ hp
  · rintro ⟨outer, rest, rfl, ho, h⟩
    exact .closed hc ho h

theorem scans_span_iff (hp : ¬ cutter.Groups word c) (hs : span? word c r = .ok (some (s, r'))) :
    Scans cutter (level :: levels) word (c :: r) ts ↔
      Scans cutter (level.add s :: levels) (lastEndsWord s) r' ts := by
  refine ⟨fun h => ?_, .span hp hs⟩
  cases h with
  | opened hc => exact absurd ⟨hc, .inl ⟨rfl, rfl⟩⟩ hp
  | closed hc => exact absurd ⟨hc, .inr rfl⟩ hp
  | span _ hs' h =>
    cases hs.symm.trans hs'
    exact h
  | mark _ hs' | plain _ hs' => cases hs.symm.trans hs'

theorem scans_mark_iff (hp : ¬ cutter.Groups word c) (hs : span? word c r = .ok none)
    (hm : cutter.mark? (c :: r) = some (m, r')) :
    Scans cutter (level :: levels) word (c :: r) ts ↔
      Scans cutter ({ tokens := level.complete ++ [.combinator m] } :: levels) false r' ts := by
  refine ⟨fun h => ?_, .mark hp hs hm⟩
  cases h with
  | opened hc => exact absurd ⟨hc, .inl ⟨rfl, rfl⟩⟩ hp
  | closed hc => exact absurd ⟨hc, .inr rfl⟩ hp
  | span _ hs' => cases hs.symm.trans hs'
  | mark _ _ hm' h =>
    cases hm.symm.trans hm'
    exact h
  | plain _ _ hm' => cases hm.symm.trans hm'

theorem scans_plain_iff (hp : ¬ cutter.Groups word c) (hs : span? word c r = .ok none)
    (hm : cutter.mark? (c :: r) = none) :
    Scans cutter (level :: levels) word (c :: r) ts ↔
      Scans cutter (level.add [c] :: levels) (endsWord c) r ts := by
  refine ⟨fun h => ?_, .plain hp hs hm⟩
  cases h with
  | opened hc => exact absurd ⟨hc, .inl ⟨rfl, rfl⟩⟩ hp
  | closed hc => exact absurd ⟨hc, .inr rfl⟩ hp
  | span _ hs' => cases hs.symm.trans hs'
  | mark _ _ hm' => cases hm.symm.trans hm'
  | plain _ _ _ h => exact h

theorem Scans.leaves_subset (h : Scans cutter levels word t ts) :
    ∀ level ∈ levels, level.leaves ⊆ Token.leavesAll ts := by
  induction h with
  | @done level =>
    intro l hl
    rw [List.mem_singleton.1 hl]
    exact level.leaves_subset
  | opened _ _ _ ih => exact fun l hl => ih l (List.mem_cons_of_mem _ hl)
  | @closed level outer levels word r ts _ ho _ ih =>
    have hclosed := ih _ List.mem_cons_self
    intro l hl x hx
    rcases List.mem_cons.1 hl with rfl | hl
    · exact hclosed (List.mem_append_right _ (l.leaves_subset hx))
    · rcases List.mem_cons.1 hl with rfl | hl
      · rw [Level.leaves, ho] at hx
        exact hclosed (List.mem_append_left _ (by simpa using hx))
      · exact ih l (List.mem_cons_of_mem _ hl) hx
  | @span level levels word c r s r' ts _ _ _ ih =>
    intro l hl
    rcases List.mem_cons.1 hl with rfl | hl
    · exact ih (l.add s) List.mem_cons_self
    · exact ih l (List.mem_cons_of_mem _ hl)
  | @mark level levels word c r m r' ts _ _ _ _ ih =>
    intro l hl x hx
    rcases List.mem_cons.1 hl with rfl | hl
    · refine ih _ List.mem_cons_self ?_
      simpa [Level.leaves, Token.leavesAll_append, Token.leavesAll, Token.leaves]
        using l.leaves_subset hx
    · exact ih l (List.mem_cons_of_mem _ hl) hx
  | @plain level levels word c r ts _ _ _ _ ih =>
    intro l hl
    rcases List.mem_cons.1 hl with rfl | hl
    · exact ih (l.add [c]) List.mem_cons_self
    · exact ih l (List.mem_cons_of_mem _ hl)

/-- A hook that takes all the leaves follows the scan, level by level. -/
theorem assemble_of_scans (h : Scans cutter levels word t ts)
    (hhook : Token.Takes hook f (Token.leavesAll ts))
    (hl : level :: stack.map Prod.snd = levels.map (Level.mapped f)) :
    Token.assemble hook fail (cutter.pieces word t).stop stack level (cutter.pieces word t).pieces =
      .ok (Token.mapLeavesAll f ts) := by
  induction h generalizing stack level with
  | done =>
    obtain ⟨rfl, hs⟩ := List.cons.inj hl
    obtain rfl : stack = [] := by simpa using hs
    rw [pieces, Token.assemble, Level.flushed_mapped hhook]
  | @opened l levels r ts hc hg h ih =>
    obtain ⟨rfl, hs⟩ := List.cons.inj hl
    have hnone : (l.mapped f).group = none := by rw [Level.mapped, hg, Option.map_none]
    rw [pieces_opened hc]
    simp only [Pieces.after, Token.assemble, hnone, Option.isSome_none, Bool.false_eq_true,
      if_false]
    exact ih hhook (congrArg _ (congrArg _ hs))
  | closed hc ho h ih =>
    obtain ⟨rfl, hs⟩ := List.cons.inj hl
    rcases stack with _ | ⟨⟨here, outer⟩, stack⟩
    · cases hs
    · obtain ⟨rfl, hrest⟩ := List.cons.inj hs
      have hflush := Level.flushed_mapped fun x hx =>
        hhook x (h.leaves_subset _ List.mem_cons_self (List.mem_append_right _ hx))
      rw [pieces_closed hc]
      simp only [Pieces.after, Token.assemble, hflush]
      exact ih hhook (congrArg _ hrest)
  | span hp hs h ih =>
    obtain ⟨rfl, hstack⟩ := List.cons.inj hl
    rw [pieces_span hp hs]
    exact ih hhook (congrArg _ hstack)
  | plain hp hs hm h ih =>
    obtain ⟨rfl, hstack⟩ := List.cons.inj hl
    rw [pieces_plain hp hs hm]
    exact ih hhook (congrArg _ hstack)
  | mark hp hs hm h ih =>
    obtain ⟨rfl, hstack⟩ := List.cons.inj hl
    have hflush :=
      Level.flushed_mapped fun x hx => hhook x (h.leaves_subset _ List.mem_cons_self (by
      simpa [Level.leaves, Token.leavesAll_append, Token.leavesAll, Token.leaves] using hx))
    rw [pieces_mark hp hs hm]
    simp only [Pieces.after, Token.assemble, hflush]
    refine ih hhook ?_
    rw [List.map_cons, Level.mapped_combine, hstack]

/-- The hook has followed the scan up to these levels: it holds the outer ones on its stack, none of
which waits for the tail of a group, and has taken their leaves. -/
structure Follows (hook : Text → Except Error Text) (f : Text → Text) (level : Level)
    (levels : List Level)
    (stack : List (Text × Level)) : Prop where
  stack : stack.map Prod.snd = levels.map (Level.mapped f)
  outer : ∀ l ∈ levels, l.group = none
  leaves : ∀ l ∈ level :: levels, Token.Takes hook f l.leaves

theorem Follows.of_leaves {level' : Level} (h : Follows hook f level levels stack)
    (hl : Token.Takes hook f level'.leaves) : Follows hook f level' levels stack where
  stack := h.stack
  outer := h.outer
  leaves := List.forall_mem_cons.2 ⟨hl, (List.forall_mem_cons.1 h.leaves).2⟩

theorem Follows.add (h : Follows hook f level levels stack) (s : Text) :
    Follows hook f (level.add s) levels stack :=
  h.of_leaves (List.forall_mem_cons.1 h.leaves).1

theorem Follows.opened (h : Follows hook f level levels stack) (hg : level.group = none)
    (here : Text) :
    Follows hook f {} (level :: levels) ((here, level.mapped f) :: stack) := by
  have hstart : Token.Takes hook f ({} : Level).leaves := fun x hx => by cases hx
  exact ⟨congrArg _ h.stack, List.forall_mem_cons.2 ⟨hg, h.outer⟩,
    List.forall_mem_cons.2 ⟨hstart, h.leaves⟩⟩

theorem Follows.marked (h : Follows hook f level levels stack) (hhook : Token.Gives hook f)
    (m : Text) (hf : (level.mapped f).flushed hook = .ok ts) :
    ts = Token.mapLeavesAll f level.complete ∧
      Follows hook f { tokens := level.complete ++ [.combinator m] } levels stack := by
  obtain ⟨hts, htakes⟩ := Level.takes_of_flushed hhook hf (h.leaves _ List.mem_cons_self)
  refine ⟨hts, h.of_leaves fun x hx => htakes x ?_⟩
  simpa [Level.leaves, Token.leavesAll_append, Token.leavesAll, Token.leaves] using hx

theorem Follows.closed {here : Text} {above : Level}
    (h : Follows hook f level levels ((here, above) :: stack)) (hhook : Token.Gives hook f)
    (hf : (level.mapped f).flushed hook = .ok ts) :
    ∃ outer rest, levels = outer :: rest ∧ outer.group = none ∧ above = outer.mapped f ∧
      ts = Token.mapLeavesAll f level.complete ∧
      Follows hook f { tokens := outer.tokens, group := some (outer.text.trim, level.complete) }
        rest stack := by
  obtain ⟨hstack, houter, hleaves⟩ := h
  rcases levels with _ | ⟨outer, rest⟩
  · cases hstack
  · obtain ⟨habove, hrest⟩ := List.cons.inj hstack
    obtain ⟨ho, houter⟩ := List.forall_mem_cons.1 houter
    obtain ⟨hlevel, hleaves⟩ := List.forall_mem_cons.1 hleaves
    obtain ⟨hout, hleaves⟩ := List.forall_mem_cons.1 hleaves
    obtain ⟨hts, htakes⟩ := Level.takes_of_flushed hhook hf hlevel
    refine ⟨outer, rest, rfl, ho, habove, hts, hrest, houter,
      List.forall_mem_cons.2 ⟨fun x hx => ?_, hleaves⟩⟩
    rcases List.mem_append.1 hx with hx | hx
    · exact hout x (List.mem_append_left _ hx)
    · exact htakes x hx

/-- What is read with a hook is what the scan yields, and the hook has taken all the leaves. -/
theorem exists_scans_of_assemble (hhook : Token.Gives hook f)
    (hfollows : Follows hook f level levels stack)
    (h : Token.assemble hook fail (cutter.pieces word t).stop stack (level.mapped f)
      (cutter.pieces word t).pieces = .ok us) :
    ∃ ts, Scans cutter (level :: levels) word t ts ∧ us = Token.mapLeavesAll f ts ∧
      Token.Takes hook f (Token.leavesAll ts) := by
  fun_induction Cutter.pieces cutter word t generalizing stack level levels with
  | case1 word =>
    cases stack with
    | nil =>
      obtain rfl : levels = [] := by simpa using hfollows.stack.symm
      obtain ⟨rfl, htakes⟩ := Level.takes_of_flushed hhook h (hfollows.leaves _ List.mem_cons_self)
      exact ⟨_, .done, rfl, htakes⟩
    | cons p stack => cases h
  | case2 word c r hc ih =>
    obtain ⟨hc, rfl, hw⟩ := hc
    obtain rfl : word = false := by simpa using hw
    simp only [Pieces.after, Token.assemble] at h
    cases hg : level.group with
    | some p => simp [Level.mapped, hg] at h
    | none =>
      have hnone : (level.mapped f).group = none := by rw [Level.mapped, hg, Option.map_none]
      simp only [hnone, Option.isSome_none, Bool.false_eq_true, if_false] at h
      obtain ⟨ts, hscans, hts⟩ := ih (hfollows.opened hg _) h
      exact ⟨ts, .opened hc hg hscans, hts⟩
  | case3 word c r hp hc ih =>
    obtain ⟨hc, rfl⟩ := hc
    simp only [Pieces.after, Token.assemble] at h
    rcases stack with _ | ⟨⟨here, above⟩, stack⟩
    · cases h
    · cases hf : (level.mapped f).flushed hook with
      | error e => simp [hf] at h
      | ok tokens =>
        obtain ⟨outer, rest, rfl, ho, rfl, rfl, hfollows⟩ := hfollows.closed hhook hf
        simp only [hf] at h
        obtain ⟨ts, hscans, hts⟩ := ih hfollows h
        exact ⟨ts, .closed hc ho hscans, hts⟩
  | case4 => cases h
  | case5 word c r ho hc s r' hs ih =>
    obtain ⟨ts, hscans, hts⟩ := ih (hfollows.add s) h
    exact ⟨ts, .span (by grind [Groups]) hs hscans, hts⟩
  | case6 word c r ho hc hs m r' hm ih =>
    simp only [Pieces.after, Token.assemble] at h
    cases hf : (level.mapped f).flushed hook with
    | error e => simp [hf] at h
    | ok tokens =>
      obtain ⟨rfl, hfollows⟩ := hfollows.marked hhook m hf
      simp only [hf] at h
      rw [← Level.mapped_combine] at h
      obtain ⟨ts, hscans, hts⟩ := ih hfollows h
      exact ⟨ts, .mark (by grind [Groups]) hs hm hscans, hts⟩
  | case7 word c r ho hc hs hm ih =>
    obtain ⟨ts, hscans, hts⟩ := ih (hfollows.add [c]) h
    exact ⟨ts, .plain (by grind [Groups]) hs hm hscans, hts⟩

theorem readWith_eq_ok_iff_scans (hhook : Token.Gives hook f) :
    Token.readWith hook delimiters t = .ok us ↔
    ∃ ts, Scans (.delimiters delimiters) [{}] false t ts ∧ us = Token.mapLeavesAll f ts ∧
      Token.Takes hook f (Token.leavesAll ts) := by
  constructor
  · intro h
    have hstart : Follows hook f {} [] [] :=
      ⟨rfl, by simp, by simp [Level.leaves, Token.leavesAll, Token.Takes]⟩
    exact exists_scans_of_assemble hhook hstart h
  · rintro ⟨ts, hscans, rfl, htakes⟩
    exact assemble_of_scans hscans htakes rfl

theorem read_eq_ok_iff :
    Token.read delimiters t = .ok ts ↔ Scans (.delimiters delimiters) [{}] false t ts := by
  have hgives : Token.Gives .ok id := fun x y h => (Except.ok.inj h).symm
  rw [Token.read, readWith_eq_ok_iff_scans hgives]
  constructor
  · rintro ⟨ts, hscans, rfl, -⟩
    rwa [Token.mapLeavesAll_id]
  · intro h
    exact ⟨ts, h, (Token.mapLeavesAll_id ts).symm, fun _ _ => rfl⟩

theorem readWith_of_scans (h : Scans (.delimiters delimiters) [{}] false t ts)
    (hhook : ∀ x ∈ Token.leavesAll ts, hook x = .ok x) :
    Token.readWith hook delimiters t = .ok ts := by
  have hread : Token.readWith hook delimiters t = .ok (Token.mapLeavesAll id ts) :=
    assemble_of_scans h hhook rfl
  rwa [Token.mapLeavesAll_id] at hread

/-- A hook that only refuses has to take every leaf, and changes nothing. -/
theorem readWith_eq_ok_iff (hhook : Token.Checks hook) :
    Token.readWith hook delimiters t = .ok ts ↔ Scans (.delimiters delimiters) [{}] false t ts ∧
      ∀ x ∈ Token.leavesAll ts, hook x = .ok x := by
  constructor
  · intro h
    obtain ⟨ts, hscans, rfl, htakes⟩ := (readWith_eq_ok_iff_scans (f := id) hhook).1 h
    rw [Token.mapLeavesAll_id]
    exact ⟨hscans, htakes⟩
  · rintro ⟨h, hleaves⟩
    exact readWith_of_scans h hleaves

end Cutter

namespace Token

variable {delimiters : List Text} {input : Text} {tokens : List Token}

/-- A hook is a map over the leaves: the text is read without it, each leaf is then replaced by what
the hook makes of it, and that is not read again. -/
theorem readWith_iff_mapLeavesAll (hook : Text → Except Error Text) :
    readWith hook delimiters input = .ok tokens ↔ ∃ (before : List Token) (f : Text → Text),
      read delimiters input = .ok before ∧ (∀ x ∈ leavesAll before, hook x = .ok (f x)) ∧
        tokens = mapLeavesAll f before := by
  constructor
  · intro h
    let f : Text → Text := fun x => (hook x).toOption.getD x
    have hgives : Gives hook f := by
      intro x y hxy
      simp [f, hxy, Except.toOption]
    obtain ⟨before, hscans, htokens, htakes⟩ := (Cutter.readWith_eq_ok_iff_scans hgives).1 h
    exact ⟨before, f, Cutter.read_eq_ok_iff.2 hscans, htakes, htokens⟩
  · rintro ⟨before, f, hread, htakes, rfl⟩
    exact Cutter.assemble_of_scans (Cutter.read_eq_ok_iff.1 hread) htakes rfl

/-- A delimiter that the hook writes into a leaf is none. -/
example : (readWith (fun x => .ok (x ++ [','])) [[',']] "a,!(b)".toList).map leavesAll =
    .ok ["a,".toList, "b,".toList] := by decide +kernel

end Token

end QueryShorthand
