import QueryShorthand.Proofs.Agreement
import QueryShorthand.Proofs.Token.Level
import QueryShorthand.Token.Clip

/-! The position in an error is that of a character the fault is about: what lacks its partner, or
the backslash that ends the text. -/
namespace QueryShorthand

namespace Piece

def isOpened : Piece → Bool
  | opened _ => true
  | _ => false

def isClosed : Piece → Bool
  | closed _ => true
  | _ => false

end Piece

/-- With `depth` levels open, the pieces close no other ones but those and the ones that they
open. -/
def Unclosed (depth : Nat) (pieces : List Piece) : Prop :=
  ∀ front here back, pieces = front ++ .closed here :: back →
    front.countP Piece.isClosed < depth + front.countP Piece.isOpened

inductive Cutter.Culprit (cutter : Cutter) : CutFault → Char → Text → Prop where
  /-- The whole text behind is read, and no parenthesis in it closes the level. -/
  | unclosed {r : Text} (hread : (cutter.pieces false r).stop = none)
      (h : Unclosed 0 (cutter.pieces false r).pieces) : Culprit cutter .unbalancedOpen '(' r
  | unopened {r : Text} : Culprit cutter .unbalancedClose ')' r
  | misplaced {r : Text} : Culprit cutter .openAfterGroup '(' r
  | escape : Culprit cutter .danglingEscape '\\' []
  /-- Between quotes, the quote that opened them stands for the backslash that ends the text. -/
  | quotedEscape {q : Char} {r : Text} (hq : isQuote q = true)
      (hread : quotedRest q r = .error .danglingEscape) (hlast : r.getLast? = some '\\') :
      Culprit cutter .danglingEscape q r
  /-- Read as the opening quote, it is not closed by the text behind. -/
  | quote {q : Char} {r : Text} (hq : isQuote q = true)
      (hread : quotedRest q r = .error (.unterminatedQuote q)) :
      Culprit cutter (.unterminatedQuote q) q r
  | bracket {r : Text}
      (hread : enclosedRest ('[' :: r) '[' ']' 0 r = .error ⟨.unterminatedSpan '[', '[' :: r⟩) :
      Culprit cutter (.unterminatedSpan '[') '[' r
  | arguments {r : Text}
      (hread : enclosedRest ('(' :: r) '(' ')' 0 r = .error ⟨.unterminatedSpan '(', '(' :: r⟩) :
      Culprit cutter (.unterminatedSpan '(') '(' r

/-- The error names the position, in bytes, of a character that its fault is about. -/
def Cutter.Points (cutter : Cutter) (input : Text) (e : Error) : Prop :=
  ∃ before c behind fault, input = before ++ c :: behind ∧ e = .cut (Text.byteSize before) fault ∧
    cutter.Culprit fault c behind

def Stop.Within (cutter : Cutter) (t : Text) (stop : Stop) : Prop :=
  ∃ before c behind, t = before ++ c :: behind ∧ stop.here = c :: behind ∧
    cutter.Culprit stop.fault c behind

variable {cutter : Cutter} {c q : Char} {r t u : Text} {word : Bool} {stop : Stop} {f : CutFault}

theorem Stop.Within.behind (h : stop.Within cutter t) (u : Text) : stop.Within cutter (u ++ t) := by
  obtain ⟨before, c, behind, rfl, hhere, hculprit⟩ := h
  exact ⟨u ++ before, c, behind, (List.append_assoc ..).symm, hhere, hculprit⟩

theorem Stop.Within.points (h : stop.Within cutter t) : cutter.Points t (stop.error t) := by
  obtain ⟨before, c, behind, rfl, hhere, hculprit⟩ := h
  refine ⟨before, c, behind, stop.fault, rfl, ?_, hculprit⟩
  rw [Stop.error, hhere, Text.byteSize_append, Nat.add_sub_cancel]

theorem within_head (h : cutter.Culprit f c r) : Stop.Within cutter (c :: r) ⟨f, c :: r⟩ :=
  ⟨[], c, r, rfl, rfl, h⟩

theorem eq_error_of_prepended {ε : Type} {x : Except ε (Text × Text)} {e : ε}
    (h : prepended u x = .error e) :
    x = .error e := by
  cases x with
  | ok p => cases h
  | error => exact h

theorem fault_of_quotedRest (h : quotedRest q t = .error f) :
    f = .unterminatedQuote q ∨ f = .danglingEscape ∧ t.getLast? = some '\\' := by
  have lasts {s t : Text} {x : Except CutFault (Text × Text)} (h : prepended s x = .error f)
      (ih : x = .error f → f = .unterminatedQuote q ∨ f = .danglingEscape ∧
        t.getLast? = some '\\') :
      f = .unterminatedQuote q ∨ f = .danglingEscape ∧ (s ++ t).getLast? = some '\\' := by
    refine (ih (eq_error_of_prepended h)).imp_right fun ⟨hf, ht⟩ => ⟨hf, ?_⟩
    rw [List.getLast?_append, ht, Option.some_or]
  fun_induction quotedRest q t with
  | case1 =>
    cases h
    exact .inl rfl
  | case2 =>
    cases h
    exact .inr ⟨rfl, rfl⟩
  | case3 c t ih => exact lasts h ih
  | case4 => cases h
  | case5 c t _ _ _ ih => exact lasts h ih

theorem within_of_atom (h : atom c r = .error stop) : stop.Within cutter (c :: r) := by
  unfold atom at h
  split at h
  · next hc =>
    split at h
    · cases h
      subst hc
      exact within_head .escape
    · cases h
  · split at h
    · next hq =>
      split at h
      · next f hf =>
        cases h
        rcases fault_of_quotedRest hf with rfl | ⟨rfl, hlast⟩
        · exact within_head (.quote hq hf)
        · exact within_head (.quotedEscape hq hf hlast)
      · cases h
    · cases h

/-- Within a span the fault is the span's own, or that of a quote or escape in it. -/
theorem stop_of_enclosedRest {start : Text} {o cl : Char} {d : Nat}
    (h : enclosedRest start o cl d t = .error stop) :
    stop = ⟨.unterminatedSpan o, start⟩ ∨ stop.Within cutter t := by
  have further {c : Char} {r s r' : Text} {d : Nat} (ha : atom c r = .ok (s, r'))
      (h : prepended s (enclosedRest start o cl d r') = .error stop)
      (ih : enclosedRest start o cl d r' = .error stop →
        stop = ⟨.unterminatedSpan o, start⟩ ∨ stop.Within cutter r') :
      stop = ⟨.unterminatedSpan o, start⟩ ∨ stop.Within cutter (c :: r) := by
    rw [(eq_append_of_atom ha).1]
    exact (ih (eq_error_of_prepended h)).imp_right fun hw => hw.behind s
  fun_induction enclosedRest start o cl d t with
  | case1 =>
    cases h
    exact .inl rfl
  | case2 d c r stop' ha =>
    cases h
    exact .inr (within_of_atom ha)
  | case3 _ _ _ _ ha ih | case5 _ _ _ _ ha _ ih | case6 _ _ _ _ _ ha _ _ ih => exact further ha h ih
  | case4 => cases h

theorem within_of_enclosed {cl : Char}
    (h : (prepended [c] (enclosedRest (c :: r) c cl 0 r)).map some = .error stop)
    (hc : enclosedRest (c :: r) c cl 0 r = .error ⟨.unterminatedSpan c, c :: r⟩ →
      cutter.Culprit (.unterminatedSpan c) c r) : stop.Within cutter (c :: r) := by
  have hread := eq_error_of_prepended (eq_error_of_map_eq_error h)
  rcases stop_of_enclosedRest hread with rfl | hw
  · exact within_head (hc hread)
  · exact hw.behind [c]

theorem within_of_span? (h : span? word c r = .error stop) : stop.Within cutter (c :: r) := by
  unfold span? at h
  split at h
  · exact within_of_atom (eq_error_of_map_eq_error h)
  · split at h
    · next hc =>
      subst hc
      exact within_of_enclosed h .bracket
    · split at h
      · next hc =>
        obtain ⟨rfl, -⟩ := hc
        exact within_of_enclosed h .arguments
      · cases h

theorem within_of_pieces (h : (cutter.pieces word t).stop = some stop) : stop.Within cutter t := by
  fun_induction Cutter.pieces cutter word t with
  | case1 => cases h
  | case2 word c r _ ih | case3 word c r _ _ ih | case7 word c r _ _ _ _ ih =>
    exact (ih h).behind [c]
  | case4 word c r _ _ stop' hs =>
    cases h
    exact within_of_span? hs
  | case5 word c r _ _ s r' hs ih =>
    rw [(eq_append_of_span? hs).1]
    exact (ih h).behind s
  | case6 word c r _ _ _ m r' hm ih =>
    rw [(eq_append_of_firstMark hm).1]
    exact (ih h).behind m

variable {p : Piece} {pieces : List Piece} {depth : Nat} {here : Text}

theorem unclosed_nil : Unclosed depth [] := by
  intro front here back h
  simp at h

theorem Unclosed.cons (h : Unclosed depth pieces) (ho : p.isOpened = false)
    (hc : p.isClosed = false) :
    Unclosed depth (p :: pieces) := by
  intro front here back heq
  rcases front with _ | ⟨p', front⟩
  · cases heq
    cases hc
  · cases heq
    rw [List.countP_cons_of_neg (by simp [hc]), List.countP_cons_of_neg (by simp [ho])]
    exact h front here back rfl

theorem Unclosed.opened (h : Unclosed (depth + 1) pieces) :
    Unclosed depth (.opened here :: pieces) := by
  intro front here back heq
  rcases front with _ | ⟨p', front⟩
  · cases heq
  · cases heq
    have hfront := h front here back rfl
    rw [List.countP_cons_of_neg (by simp [Piece.isClosed]),
      List.countP_cons_of_pos (by simp [Piece.isOpened])]
    omega

theorem Unclosed.closed (h : Unclosed depth pieces) :
    Unclosed (depth + 1) (.closed here :: pieces) := by
  intro front here back heq
  rcases front with _ | ⟨p', front⟩
  · simp
  · cases heq
    have hfront := h front here back rfl
    rw [List.countP_cons_of_pos (by simp [Piece.isClosed]),
      List.countP_cons_of_neg (by simp [Piece.isOpened])]
    omega

structure Pieces.Ends (cut : Pieces) (stack : List (Text × Level)) (here : Text) : Prop where
  read : cut.stop = none
  level : ∃ inner level outer, stack = inner ++ (here, level) :: outer ∧
      Unclosed inner.length cut.pieces

variable {cut : Pieces} {stack : List (Text × Level)} {level : Level} {fail : Stop → Error}
  {e : Error}

theorem Pieces.Ends.after (h : cut.Ends stack here) (ho : p.isOpened = false)
    (hc : p.isClosed = false) :
    (cut.after p).Ends stack here := by
  obtain ⟨hread, inner, level, outer, hstack, hunclosed⟩ := h
  exact ⟨hread, inner, level, outer, hstack, hunclosed.cons ho hc⟩

theorem Pieces.Ends.opened (h : cut.Ends ((t, level) :: stack) here) :
    here = t ∧ cut.stop = none ∧ Unclosed 0 cut.pieces ∨
    (cut.after (.opened t)).Ends stack here := by
  obtain ⟨hread, inner, level', outer, hstack, hunclosed⟩ := h
  rcases inner with _ | ⟨l, inner⟩
  · cases hstack
    exact .inl ⟨rfl, hread, hunclosed⟩
  · obtain ⟨-, hstack⟩ := List.cons.inj hstack
    exact .inr ⟨hread, inner, level', outer, hstack, hunclosed.opened⟩

theorem Pieces.Ends.closed (h : cut.Ends stack here) (l : Text × Level) :
    (cut.after (.closed t)).Ends (l :: stack) here := by
  obtain ⟨hread, inner, level, outer, hstack, hunclosed⟩ := h
  exact ⟨hread, l :: inner, level, outer, congrArg _ hstack, hunclosed.closed⟩

def FaultOf (cutter : Cutter) (fail : Stop → Error) (stack : List (Text × Level)) (t : Text)
    (cut : Pieces) (e : Error) : Prop :=
  (∃ stop, e = fail stop ∧ stop.Within cutter t) ∨
    ∃ here, e = fail ⟨.unbalancedOpen, here⟩ ∧ cut.Ends stack here

theorem FaultOf.behind (h : FaultOf cutter fail stack t cut e) (s : Text) (ho : p.isOpened = false)
    (hc : p.isClosed = false) : FaultOf cutter fail stack (s ++ t) (cut.after p) e := by
  rcases h with ⟨stop, rfl, hw⟩ | ⟨here, rfl, hends⟩
  · exact .inl ⟨stop, rfl, hw.behind s⟩
  · exact .inr ⟨here, rfl, hends.after ho hc⟩

theorem FaultOf.opened
    (h : FaultOf cutter fail (('(' :: r, level) :: stack) r (cutter.pieces false r) e) :
    FaultOf cutter fail stack ('(' :: r) ((cutter.pieces false r).after (.opened ('(' :: r)))
      e := by
  rcases h with ⟨stop, rfl, hw⟩ | ⟨here, rfl, hends⟩
  · exact .inl ⟨stop, rfl, hw.behind ['(']⟩
  · rcases hends.opened with ⟨rfl, hread, hunclosed⟩ | hends
    · exact .inl ⟨_, rfl, within_head (.unclosed hread hunclosed)⟩
    · exact .inr ⟨here, rfl, hends⟩

theorem FaultOf.closed (h : FaultOf cutter fail stack t cut e) (l : Text × Level) :
    FaultOf cutter fail (l :: stack) (')' :: t) (cut.after (.closed (')' :: t))) e := by
  rcases h with ⟨stop, rfl, hw⟩ | ⟨here, rfl, hends⟩
  · exact .inl ⟨stop, rfl, hw.behind [')']⟩
  · exact .inr ⟨here, rfl, hends.closed l⟩

theorem fault_of_assemble (h : Token.assemble .ok fail (cutter.pieces word t).stop stack level
      (cutter.pieces word t).pieces = .error e) :
    FaultOf cutter fail stack t (cutter.pieces word t) e := by
  fun_induction Cutter.pieces cutter word t generalizing stack level with
  | case1 word =>
    rcases stack with _ | ⟨⟨here, outer⟩, stack⟩
    · rw [Token.assemble, Level.flushed_ok] at h
      cases h
    · cases h
      exact .inr ⟨here, rfl, rfl, [], outer, stack, rfl, unclosed_nil⟩
  | case2 word c r hc ih =>
    obtain ⟨-, rfl, -⟩ := hc
    simp only [Pieces.after, Token.assemble] at h
    split at h
    · cases h
      exact .inl ⟨_, rfl, within_head .misplaced⟩
    · exact (ih h).opened
  | case3 word c r _ hc ih =>
    obtain ⟨-, rfl⟩ := hc
    rcases stack with _ | ⟨l, stack⟩
    · cases h
      exact .inl ⟨_, rfl, within_head .unopened⟩
    · simp only [Pieces.after, Token.assemble, Level.flushed_ok] at h
      exact (ih h).closed l
  | case4 word c r _ _ stop hs =>
    cases h
    exact .inl ⟨stop, rfl, within_of_span? hs⟩
  | case5 word c r _ _ s r' hs ih =>
    rw [(eq_append_of_span? hs).1]
    exact (ih h).behind s rfl rfl
  | case6 word c r _ _ _ m r' hm ih =>
    rw [(eq_append_of_firstMark hm).1]
    simp only [Pieces.after, Token.assemble, Level.flushed_ok] at h
    exact (ih h).behind m rfl rfl
  | case7 word c r _ _ _ _ ih => exact (ih h).behind [c] rfl rfl

variable {marks : List Text} {e : Error}

theorem Token.points_of_read (h : Token.read marks t = .error e) :
    (Cutter.delimiters marks).Points t e := by
  rcases fault_of_assemble h with ⟨stop, rfl, hw⟩ | ⟨here, rfl, -, inner, level, outer, hstack, -⟩
  · exact hw.points
  · simp at hstack

theorem Clip.points_of_split (h : Clip.split marks t = .error e) :
    (Cutter.operators marks).Points t e := by
  cases hstop : ((Cutter.operators marks).pieces false t).stop with
  | none =>
    rw [Clip.split, hstop] at h
    cases h
  | some stop =>
    rw [Clip.split, hstop] at h
    cases h
    exact (within_of_pieces hstop).points

/-- A text that cannot be read or split is refused at the byte offset of the culprit. -/
theorem Cutter.points_of_error (marks : List Text) (t : Text) (e : Error) :
    (Token.read marks t = .error e → (Cutter.delimiters marks).Points t e) ∧
      (Clip.split marks t = .error e → (Cutter.operators marks).Points t e) :=
  ⟨Token.points_of_read, Clip.points_of_split⟩

theorem Cutter.points_of_error_wide :
    (Token.read [[',']] "é,(a,(b)".toList = .error (.cut 3 .unbalancedOpen) ∧
      (Cutter.delimiters [[',']]).Points "é,(a,(b)".toList (.cut 3 .unbalancedOpen)) ∧
    Clip.split [['=']] "é='ß\\".toList = .error (.cut 3 .danglingEscape) ∧
      (Cutter.operators [['=']]).Points "é='ß\\".toList (.cut 3 .danglingEscape) := by
  have hmap : (Token.read [[',']] "é,(a,(b)".toList).map Token.leavesAll =
      .error (.cut 3 .unbalancedOpen) := by
    decide +kernel
  have hread := eq_error_of_map_eq_error hmap
  have hsplit : Clip.split [['=']] "é='ß\\".toList = .error (.cut 3 .danglingEscape) := by
    decide +kernel
  exact ⟨⟨hread, (points_of_error _ _ _).1 hread⟩, hsplit, (points_of_error _ _ _).2 hsplit⟩

end QueryShorthand
