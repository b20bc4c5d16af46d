import QueryShorthand.Proofs.Operand.Solid

/-! Other text in the place of a leaf. -/
namespace QueryShorthand

/-- Whether a leaf begins behind the piece; `start` tells whether one begins before it. -/
def Piece.startsLeaf (start : Bool) : Piece → Bool
  | plain c => start && isBlank c
  | span _ => false
  | mark _ => true
  | opened _ => true
  | closed _ => false

/-- A leaf begins behind the text: no quote or bracket is open, and but for blanks the last thing in
it is a delimiter or an opening parenthesis. -/
def Cutter.startsLeaf (cutter : Cutter) (t : Text) : Bool :=
  (cutter.pieces false t).stop.isNone && (cutter.pieces false t).pieces.foldl Piece.startsLeaf true

/-- The text begins an item and is never cut, nor can what follows it be joined to its last word. -/
structure Cutter.Firm (cutter : Cutter) (t : Text) : Prop where
  inside : cutter.Inside false t
  apart : ∀ v, cutter.Apart (t ++ v)
  head : ∃ c r, t = c :: r ∧ isBlank c = false
  last : ∃ c, t.getLast? = some c ∧ isBlank c = false ∧ endsWord c = false

namespace Token

/-- The tokens are the same but for one item, of which one begins with `x` where the other one
begins with `y`. -/
inductive Swaps (x y : Text) : List Token → List Token → Prop where
  | leaf (front behind : List Token) (w : Text) :
      Swaps x y (front ++ .leaf (x ++ w) :: behind) (front ++ .leaf (y ++ w) :: behind)
  | lead (front behind : List Token) (w : Text) (ts : List Token) (tail : Text) :
      Swaps x y (front ++ .group (x ++ w) ts tail :: behind)
        (front ++ .group (y ++ w) ts tail :: behind)
  | inside (front behind : List Token) (lead tail : Text) {ts us : List Token}
      (h : Swaps x y ts us) :
      Swaps x y (front ++ .group lead ts tail :: behind) (front ++ .group lead us tail :: behind)

variable {x y : Text} {ts us : List Token}

theorem Swaps.surround (h : Swaps x y ts us) (front behind : List Token) :
    Swaps x y (front ++ (ts ++ behind)) (front ++ (us ++ behind)) := by
  have regroup (l : List Token) (t : Token) (r : List Token) :
      front ++ (l ++ t :: r ++ behind) = (front ++ l) ++ t :: (r ++ behind) := by simp
  cases h with
  | leaf l r w =>
    rw [regroup, regroup]
    exact .leaf _ _ w
  | lead l r w ts tail =>
    rw [regroup, regroup]
    exact .lead _ _ w ts tail
  | inside l r lead tail h =>
    rw [regroup, regroup]
    exact .inside _ _ lead tail h

theorem Swaps.ahead (h : Swaps x y ts us) (behind : List Token) :
    Swaps x y (ts ++ behind) (us ++ behind) :=
  h.surround [] behind

theorem Swaps.behind (h : Swaps x y ts us) (front : List Token) :
    Swaps x y (front ++ ts) (front ++ us) := by
  have hs := h.surround front []
  rwa [List.append_nil, List.append_nil] at hs

end Token

/-- The levels are the same but for an item that begins with `x` on the one and with `y` on the
other: one that is complete, the group closed last, or the leaf that is being read. -/
inductive Level.Swaps (x y : Text) : Level → Level → Prop where
  | tokens {ts us : List Token} (group : Option (Text × List Token)) (text : Text)
      (h : Token.Swaps x y ts us) : Swaps x y ⟨ts, group, text⟩ ⟨us, group, text⟩
  | group (tokens : List Token) {lead lead' : Text} {ts us : List Token} (text : Text)
      (h : ∀ tail, Token.Swaps x y [.group lead ts tail] [.group lead' us tail]) :
      Swaps x y ⟨tokens, some (lead, ts), text⟩ ⟨tokens, some (lead', us), text⟩
  | text (tokens : List Token) {b : Text} (w : Text) (hb : b.Blank) :
      Swaps x y ⟨tokens, none, b ++ (x ++ w)⟩ ⟨tokens, none, b ++ (y ++ w)⟩

variable {cutter : Cutter} {x y b t u v w : Text} {word : Bool} {ts us : List Token}
  {level l l' : Level} {levels : List Level}

namespace Cutter.Firm

theorem ne_nil (h : cutter.Firm x) : x ≠ [] := by
  obtain ⟨c, r, rfl, -⟩ := h.head
  simp

theorem wordAfter (h : cutter.Firm x) : wordAfter word x = false := by
  obtain ⟨d, hd, -, hw⟩ := h.last
  rw [wordAfter_of_ne_nil h.ne_nil, lastEndsWord, hd]
  exact hw

theorem trim (h : cutter.Firm x) (hb : b.Blank) (w : Text) :
    (b ++ (x ++ w)).trim = x ++ w.trimEnd := by
  obtain ⟨c, r, hc, hblank⟩ := h.head
  obtain ⟨d, hd, hblank', -⟩ := h.last
  obtain ⟨u, hu⟩ := List.getLast?_eq_some_iff.1 hd
  have hpad := Text.trim_padded (t := x ++ w) hb Text.blank_nil
  rw [List.append_nil] at hpad
  have hstart : Text.trimStart (x ++ w) = x ++ w := by
    rw [hc]
    exact Text.trimStart_cons hblank
  have hend : Text.trimEnd (u ++ [d] ++ w) = u ++ [d] ++ w.trimEnd := by
    rw [List.append_assoc, List.append_assoc]
    exact Text.trimEnd_append_cons u hblank'
  rw [hpad, Text.trim, hstart, hu, hend]

end Cutter.Firm

namespace Level.Swaps

theorem group_none (h : Swaps x y l l') (hg : l.group = none) : l'.group = none := by
  cases h with
  | tokens => exact hg
  | group => cases hg
  | text => rfl

theorem add (h : Swaps x y l l') (t : Text) : Swaps x y (l.add t) (l'.add t) := by
  cases h with
  | tokens group text h => exact .tokens group _ h
  | group tokens text h => exact .group tokens _ h
  | @text tokens b w hb =>
    have hswaps := Swaps.text (x := x) (y := y) tokens (w ++ t) hb
    simpa [Level.add] using hswaps

variable (hx : cutter.Firm x) (hy : cutter.Firm y)

include hx hy

theorem complete (h : Swaps x y l l') : Token.Swaps x y l.complete l'.complete := by
  cases h with
  | tokens group text h => exact h.ahead _
  | group tokens text h => exact (h text.trim).behind tokens
  | @text tokens b w hb =>
    have hxne : x ++ w.trimEnd ≠ [] := by simp [hx.ne_nil]
    have hyne : y ++ w.trimEnd ≠ [] := by simp [hy.ne_nil]
    simp only [Level.complete, Level.last, hx.trim hb, hy.trim hb, if_neg hxne, if_neg hyne]
    exact .leaf tokens [] w.trimEnd

theorem close (h : Swaps x y l l') (hg : l.group = none) (inner : List Token) :
    Swaps x y ⟨l.tokens, some (l.text.trim, inner), []⟩
      ⟨l'.tokens, some (l'.text.trim, inner), []⟩ := by
  cases h with
  | tokens group text h => exact .tokens _ _ h
  | group => cases hg
  | @text tokens b w hb =>
    rw [hx.trim hb, hy.trim hb]
    exact .group tokens [] fun tail => .lead [] [] w.trimEnd inner tail

end Level.Swaps

namespace Cutter

/-- The text before a leaf is read in one way, whatever the leaf is: on the level that it leaves
open there is nothing of a leaf yet. -/
theorem Scans.exists_level (start : Bool) (hstop : (cutter.pieces word t).stop = none)
    (hv : cutter.Apart v) (hl : start = true → level.group = none ∧ level.text.Blank ∧ word = false)
    (h : Scans cutter (level :: levels) word (t ++ v) ts) :
    ∃ (l : Level) (ls : List Level) (w : Bool),
      ((cutter.pieces word t).pieces.foldl Piece.startsLeaf start = true →
        l.group = none ∧ l.text.Blank ∧ w = false) ∧ Scans cutter (l :: ls) w v ts ∧
      ∀ v' us, cutter.Apart v' → Scans cutter (l :: ls) w v' us →
        Scans cutter (level :: levels) word (t ++ v') us := by
  fun_induction Cutter.pieces cutter word t generalizing start level levels with
  | case1 word => exact ⟨level, levels, word, hl, h, fun v' us _ h' => h'⟩
  | case2 word c r hc ih =>
    obtain ⟨hc, rfl, hw⟩ := hc
    obtain rfl : word = false := by simpa using hw
    obtain ⟨hg, h⟩ := (scans_opened_iff hc).1 h
    obtain ⟨l, ls, w, hstart, hs, hback⟩ :=
      ih true hstop (fun _ => ⟨rfl, Text.blank_nil, rfl⟩) h
    exact ⟨l, ls, w, hstart, hs, fun v' us hv' h' =>
      (scans_opened_iff hc).2 ⟨hg, hback v' us hv' h'⟩⟩
  | case3 word c r _ hc ih =>
    obtain ⟨hc, rfl⟩ := hc
    obtain ⟨outer, rest, rfl, ho, h⟩ := (scans_closed_iff hc).1 h
    obtain ⟨l, ls, w, hstart, hs, hback⟩ := ih false hstop (fun hf => by cases hf) h
    exact ⟨l, ls, w, hstart, hs, fun v' us hv' h' =>
      (scans_closed_iff hc).2 ⟨outer, rest, rfl, ho, hback v' us hv' h'⟩⟩
  | case4 => cases hstop
  | case5 word c r ho hc s r' hs ih =>
    have hp : ¬ cutter.Groups word c := by grind [Groups]
    have hspan {v' : Text} (hv' : cutter.Apart v') :
        span? word c (r ++ v') = .ok (some (s, r' ++ v')) :=
      span?_append hv'.arrow hs
    obtain ⟨l, ls, w, hstart, hs', hback⟩ :=
      ih false hstop (fun hf => by cases hf) ((scans_span_iff hp (hspan hv)).1 h)
    exact ⟨l, ls, w, hstart, hs', fun v' us hv' h' =>
      (scans_span_iff hp (hspan hv')).2 (hback v' us hv' h')⟩
  | case6 word c r ho hc hs m r' hm ih =>
    have hp : ¬ cutter.Groups word c := by grind [Groups]
    have hspan {v' : Text} (hv' : cutter.Apart v') : span? word c (r ++ v') = .ok none :=
      span?_append hv'.arrow hs
    have hmark {v' : Text} (hv' : cutter.Apart v') :
        cutter.mark? (c :: (r ++ v')) = some (m, r' ++ v') := by
      rw [mark?_append hv', hm]
      rfl
    obtain ⟨l, ls, w, hstart, hs', hback⟩ := ih true hstop
      (fun _ => ⟨rfl, Text.blank_nil, rfl⟩) ((scans_mark_iff hp (hspan hv) (hmark hv)).1 h)
    exact ⟨l, ls, w, hstart, hs', fun v' us hv' h' =>
      (scans_mark_iff hp (hspan hv') (hmark hv')).2 (hback v' us hv' h')⟩
  | case7 word c r ho hc hs hm ih =>
    have hp : ¬ cutter.Groups word c := by grind [Groups]
    have hspan {v' : Text} (hv' : cutter.Apart v') : span? word c (r ++ v') = .ok none :=
      span?_append hv'.arrow hs
    have hmark {v' : Text} (hv' : cutter.Apart v') : cutter.mark? (c :: (r ++ v')) = none := by
      rw [mark?_append hv', hm]
      rfl
    have hstart' : (start && isBlank c) = true →
        (level.add [c]).group = none ∧ (level.add [c]).text.Blank ∧ endsWord c = false := by
      intro hs
      obtain ⟨hs, hb⟩ := Bool.and_eq_true_iff.1 hs
      obtain ⟨hg, htext, -⟩ := hl hs
      refine ⟨hg, htext.append fun d hd => ?_, not_endsWord_of_isBlank hb⟩
      rw [List.mem_singleton.1 hd]
      exact hb
    obtain ⟨l, ls, w, hstart, hs', hback⟩ :=
      ih _ hstop hstart' ((scans_plain_iff hp (hspan hv) (hmark hv)).1 h)
    exact ⟨l, ls, w, hstart, hs', fun v' us hv' h' =>
      (scans_plain_iff hp (hspan hv') (hmark hv')).2 (hback v' us hv' h')⟩

theorem Scans.swaps (hx : cutter.Firm x) (hy : cutter.Firm y) (h : Scans cutter levels word t ts)
    (inner : List Level) {outer : List Level} (hl : levels = inner ++ l :: outer)
    (hs : l.Swaps x y l') :
    ∃ us, Token.Swaps x y ts us ∧ Scans cutter (inner ++ l' :: outer) word t us := by
  induction h generalizing inner outer l l' with
  | done =>
    rcases inner with _ | ⟨i, inner⟩
    · cases hl
      exact ⟨_, hs.complete hx hy, .done⟩
    · simp at hl
  | @opened level levels r ts hc hg _ ih =>
    rcases inner with _ | ⟨i, inner⟩
    · cases hl
      obtain ⟨us, hts, h⟩ := ih [{}] rfl hs
      exact ⟨us, hts, .opened hc (hs.group_none hg) h⟩
    · cases hl
      obtain ⟨us, hts, h⟩ := ih ({} :: level :: inner) rfl hs
      exact ⟨us, hts, .opened hc hg h⟩
  | @closed level encl levels word r ts hc hg _ ih =>
    rcases inner with _ | ⟨i, _ | ⟨o, inner⟩⟩
    · cases hl
      have hgroup : Level.Swaps x y ⟨encl.tokens, some (encl.text.trim, level.complete), []⟩
          ⟨encl.tokens, some (encl.text.trim, l'.complete), []⟩ :=
        .group _ [] fun tail => .inside [] [] _ tail (hs.complete hx hy)
      obtain ⟨us, hts, h⟩ := ih [] rfl hgroup
      exact ⟨us, hts, .closed hc hg h⟩
    · cases hl
      obtain ⟨us, hts, h⟩ := ih [] rfl (hs.close hx hy hg level.complete)
      exact ⟨us, hts, .closed hc (hs.group_none hg) h⟩
    · cases hl
      obtain ⟨us, hts, h⟩ := ih (_ :: inner) rfl hs
      exact ⟨us, hts, .closed hc hg h⟩
  | @span level levels word c r s r' ts hp hspan _ ih =>
    rcases inner with _ | ⟨i, inner⟩
    · cases hl
      obtain ⟨us, hts, h⟩ := ih [] rfl (hs.add s)
      exact ⟨us, hts, .span hp hspan h⟩
    · cases hl
      obtain ⟨us, hts, h⟩ := ih (_ :: inner) rfl hs
      exact ⟨us, hts, .span hp hspan h⟩
  | @mark level levels word c r m r' ts hp hspan hm _ ih =>
    rcases inner with _ | ⟨i, inner⟩
    · cases hl
      have hmarked : Level.Swaps x y ⟨level.complete ++ [.combinator m], none, []⟩
          ⟨l'.complete ++ [.combinator m], none, []⟩ :=
            .tokens none [] ((hs.complete hx hy).ahead _)
      obtain ⟨us, hts, h⟩ := ih [] rfl hmarked
      exact ⟨us, hts, .mark hp hspan hm h⟩
    · cases hl
      obtain ⟨us, hts, h⟩ := ih (_ :: inner) rfl hs
      exact ⟨us, hts, .mark hp hspan hm h⟩
  | @plain level levels word c r ts hp hspan hm _ ih =>
    rcases inner with _ | ⟨i, inner⟩
    · cases hl
      obtain ⟨us, hts, h⟩ := ih [] rfl (hs.add [c])
      exact ⟨us, hts, .plain hp hspan hm h⟩
    · cases hl
      obtain ⟨us, hts, h⟩ := ih (_ :: inner) rfl hs
      exact ⟨us, hts, .plain hp hspan hm h⟩

theorem exists_swaps (hstart : cutter.startsLeaf t = true) (hx : cutter.Firm x) (hy : cutter.Firm y)
    (h : Scans cutter [{}] false (t ++ (x ++ u)) ts) :
    ∃ us, Scans cutter [{}] false (t ++ (y ++ u)) us ∧ Token.Swaps x y ts us := by
  obtain ⟨hstop, hfold⟩ := Bool.and_eq_true_iff.1 hstart
  obtain ⟨⟨tokens, group, text⟩, ls, w, hlevel, hs, hback⟩ := h.exists_level true
    (by simpa using hstop) (hx.apart u) fun _ => ⟨rfl, Text.blank_nil, rfl⟩
  obtain ⟨rfl, hblank, rfl⟩ := hlevel hfold
  have hrest := hx.inside.scans_iff.1 hs
  rw [hx.wordAfter] at hrest
  have hswap :
      Level.Swaps x y (Level.add ⟨tokens, none, text⟩ x) (Level.add ⟨tokens, none, text⟩ y) := by
    have htext := Level.Swaps.text (x := x) (y := y) tokens [] hblank
    rwa [List.append_nil, List.append_nil] at htext
  obtain ⟨us, hts, hys⟩ := hrest.swaps hx hy [] rfl hswap
  refine ⟨us, hback _ us (hy.apart u) (hy.inside.scans_iff.2 ?_), hts⟩
  rw [hy.wordAfter]
  exact hys

end Cutter

end QueryShorthand
