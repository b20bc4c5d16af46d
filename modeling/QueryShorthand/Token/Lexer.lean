import QueryShorthand.Error
import QueryShorthand.Text.Alphanumeric

/-! Cutting a text into pieces. Quoted spans, escapes, brackets, the argument list after a word and
JSON arrows stay whole. -/

namespace QueryShorthand

/-- A fault and the text from the culprit on. -/
structure Stop where
  fault : CutFault
  here : Text
  deriving DecidableEq, Repr

def Stop.error (input : Text) (s : Stop) : Error :=
  .cut (input.byteSize - s.here.byteSize) s.fault

inductive Piece where
  | plain (c : Char)
  /-- A quote, an escape, a bracket, an argument list or an arrow. -/
  | span (text : Text)
  | mark (symbol : Text)
  /-- A group's `(`, with the text from there on. -/
  | opened (here : Text)
  | closed (here : Text)
  deriving DecidableEq, Repr

def Piece.text : Piece → Text
  | plain c => [c]
  | span t => t
  | mark s => s
  | opened _ => ['(']
  | closed _ => [')']

/-- Where a text is cut: at delimiters, where parentheses group and a mark directly before `=` does
not count, or at operators, where neither holds. -/
structure Cutter where
  /-- The marks to cut at; where several match, the first counts. -/
  marks : List Text
  groups : Bool

def firstMark (marks : List Text) (follow : Text → Bool) (t : Text) : Option (Text × Text) :=
  match marks with
  | [] => none
  | m :: ms =>
    match Text.after? m t with
    | some r => if m ≠ [] ∧ follow r then some (m, r) else firstMark ms follow t
    | none => firstMark ms follow t

def insertBySize (m : Text) : List Text → List Text
  | [] => [m]
  | n :: ms => if n.byteSize ≤ m.byteSize then m :: n :: ms else n :: insertBySize m ms

def longestFirst (marks : List Text) : List Text := marks.foldr insertBySize []

namespace Cutter

def delimiters (marks : List Text) : Cutter := ⟨longestFirst marks, true⟩

def operators (marks : List Text) : Cutter := ⟨longestFirst marks, false⟩

def mark? (c : Cutter) (t : Text) : Option (Text × Text) :=
  firstMark c.marks (fun r => !c.groups || r.head? != some '=') t

end Cutter

def isQuote (c : Char) : Bool := c == '\'' || c == '"' || c == '\x60'

/-- A parenthesis after such a character opens an argument list. -/
def endsWord (c : Char) : Bool := isAlphanumeric c || c == '_'

def lastEndsWord (t : Text) : Bool := t.getLast?.any endsWord

def prepended {ε : Type} (t : Text) : Except ε (Text × Text) → Except ε (Text × Text)
  | .ok (s, r) => .ok (t ++ s, r)
  | .error e => .error e

def quotedRest (quote : Char) : Text → Except CutFault (Text × Text)
  | [] => .error (.unterminatedQuote quote)
  | ['\\'] => .error .danglingEscape
  | '\\' :: c :: r => prepended ['\\', c] (quotedRest quote r)
  | c :: r => if c = quote then .ok ([c], r) else prepended [c] (quotedRest quote r)

def atom (c : Char) (r : Text) : Except Stop (Text × Text) :=
  if c = '\\' then
    match r with
    | [] => .error ⟨.danglingEscape, [c]⟩
    | d :: r' => .ok ([c, d], r')
  else if isQuote c then
    match quotedRest c r with
    | .error f => .error ⟨f, c :: r⟩
    | .ok (s, r') => .ok (c :: s, r')
  else .ok ([c], r)

theorem eq_append_of_prepended {ε : Type} {t s r : Text} {e : Except ε (Text × Text)}
    (h : prepended t e = .ok (s, r)) : ∃ s', e = .ok (s', r) ∧ s = t ++ s' := by
  cases e with
  | error => simp [prepended] at h
  | ok p =>
    obtain ⟨s', r'⟩ := p
    simp only [prepended, Except.ok.injEq, Prod.mk.injEq] at h
    exact ⟨s', by rw [h.2], h.1.symm⟩

theorem eq_append_of_quotedRest {q : Char} {t s r : Text} (h : quotedRest q t = .ok (s, r)) :
    t = s ++ r := by
  fun_induction quotedRest q t generalizing s with
  | case1 => simp at h
  | case2 => simp at h
  | case3 c t ih =>
    obtain ⟨s', h', rfl⟩ := eq_append_of_prepended h
    simp [ih h']
  | case4 t _ _ =>
    simp only [Except.ok.injEq, Prod.mk.injEq] at h
    obtain ⟨rfl, rfl⟩ := h
    rfl
  | case5 c t _ _ _ ih =>
    obtain ⟨s', h', rfl⟩ := eq_append_of_prepended h
    simp [ih h']

theorem eq_append_of_atom {c : Char} {r s r' : Text} (h : atom c r = .ok (s, r')) :
    c :: r = s ++ r' ∧ s ≠ [] := by
  unfold atom at h
  split at h
  · split at h <;> simp_all
    grind
  · split at h
    · split at h
      · simp at h
      · next heq =>
        simp only [Except.ok.injEq, Prod.mk.injEq] at h
        obtain ⟨rfl, rfl⟩ := h
        simp [eq_append_of_quotedRest heq]
    · simp only [Except.ok.injEq, Prod.mk.injEq] at h
      obtain ⟨rfl, rfl⟩ := h
      simp

theorem length_lt_of_atom {c : Char} {r s r' : Text} (h : atom c r = .ok (s, r')) :
    r'.length < (c :: r).length := by
  obtain ⟨heq, hs⟩ := eq_append_of_atom h
  have := List.length_pos_iff.2 hs
  rw [heq, List.length_append]
  omega

/-- Reads on from behind an opener up to the closer that matches it. `start` is the text from the
opener on, and `depth` counts further openers not closed yet. -/
def enclosedRest (start : Text) (opener closer : Char) (depth : Nat) (t : Text) :
    Except Stop (Text × Text) :=
  match t with
  | [] => .error ⟨.unterminatedSpan opener, start⟩
  | c :: r =>
    match _read : atom c r with
    | .error stop => .error stop
    | .ok (s, r') =>
      if s = [opener] then prepended s (enclosedRest start opener closer (depth + 1) r')
      else if s = [closer] then
        match depth with
        | 0 => .ok (s, r')
        | d + 1 => prepended s (enclosedRest start opener closer d r')
      else prepended s (enclosedRest start opener closer depth r')
termination_by t.length
decreasing_by all_goals exact length_lt_of_atom _read

def arrow? : Text → Option (Text × Text)
  | '-' :: '>' :: '>' :: r => some (['-', '>', '>'], r)
  | '-' :: '>' :: r => some (['-', '>'], r)
  | _ => none

/-- The span that starts at `c`, if one does; `word` tells whether a word ends right before it. -/
def span? (word : Bool) (c : Char) (r : Text) : Except Stop (Option (Text × Text)) :=
  if c = '\\' ∨ isQuote c then (atom c r).map some
  else if c = '[' then (prepended [c] (enclosedRest (c :: r) '[' ']' 0 r)).map some
  else if c = '(' ∧ word then (prepended [c] (enclosedRest (c :: r) '(' ')' 0 r)).map some
  else .ok (arrow? (c :: r))

theorem eq_append_of_enclosedRest {start t s r : Text} {o cl : Char} {d : Nat}
    (h : enclosedRest start o cl d t = .ok (s, r)) : t = s ++ r := by
  fun_induction enclosedRest start o cl d t generalizing s with
  | case1 => simp at h
  | case2 => simp at h
  | case3 d c t r' ha ih =>
    obtain ⟨s', h', rfl⟩ := eq_append_of_prepended h
    rw [(eq_append_of_atom ha).1, ih h', List.append_assoc]
  | case4 => grind [eq_append_of_atom]
  | case5 c t r' d ha _ ih =>
    obtain ⟨s', h', rfl⟩ := eq_append_of_prepended h
    rw [(eq_append_of_atom ha).1, ih h', List.append_assoc]
  | case6 d c t _ r' ha _ _ ih =>
    obtain ⟨s', h', rfl⟩ := eq_append_of_prepended h
    rw [(eq_append_of_atom ha).1, ih h', List.append_assoc]

theorem eq_append_of_arrow? {t s r : Text} (h : arrow? t = some (s, r)) : t = s ++ r ∧ s ≠ [] := by
  unfold arrow? at h
  split at h <;> simp_all
  · obtain ⟨rfl, rfl⟩ := h; simp
  · obtain ⟨rfl, rfl⟩ := h; simp

theorem eq_append_of_span? {word : Bool} {c : Char} {r s r' : Text}
    (h : span? word c r = .ok (some (s, r'))) : c :: r = s ++ r' ∧ s ≠ [] := by
  have opened {o cl : Char}
      (h : (prepended [c] (enclosedRest (c :: r) o cl 0 r)).map some = .ok (some (s, r'))) :
      c :: r = s ++ r' ∧ s ≠ [] := by
    cases he : prepended [c] (enclosedRest (c :: r) o cl 0 r) with
    | error => simp [he, Except.map] at h
    | ok p =>
      obtain rfl : p = (s, r') := by simpa [he, Except.map] using h
      obtain ⟨s', h', rfl⟩ := eq_append_of_prepended he
      simp [eq_append_of_enclosedRest h']
  unfold span? at h
  split at h
  · cases ha : atom c r with
    | error => simp [ha, Except.map] at h
    | ok p =>
      obtain rfl : p = (s, r') := by simpa [ha, Except.map] using h
      exact eq_append_of_atom ha
  · split at h
    · exact opened h
    · split at h
      · exact opened h
      · exact eq_append_of_arrow? (by simpa using h)

theorem eq_append_of_firstMark {marks : List Text} {follow : Text → Bool} {t m r : Text}
    (h : firstMark marks follow t = some (m, r)) : t = m ++ r ∧ m ≠ [] := by
  fun_induction firstMark marks follow t with
  | case1 => simp at h
  | case2 m' ms r' hp hm =>
    simp only [Option.some.injEq, Prod.mk.injEq] at h
    obtain ⟨rfl, rfl⟩ := h
    exact ⟨Text.after?_eq_some_iff.1 hp, hm.1⟩
  | case3 _ _ _ _ _ ih => exact ih h
  | case4 _ _ _ ih => exact ih h

structure Pieces where
  pieces : List Piece
  stop : Option Stop

def Pieces.after (p : Piece) (ps : Pieces) : Pieces := ⟨p :: ps.pieces, ps.stop⟩

/-- Cuts `t`; `word` tells whether a word ends right before it in the same leaf. -/
def Cutter.pieces (cutter : Cutter) (word : Bool) (t : Text) : Pieces :=
  match t with
  | [] => ⟨[], none⟩
  | c :: r =>
    if cutter.groups ∧ c = '(' ∧ !word then (cutter.pieces false r).after (.opened (c :: r))
    else if cutter.groups ∧ c = ')' then (cutter.pieces false r).after (.closed (c :: r))
    else
      match _span : span? word c r with
      | .error stop => ⟨[], some stop⟩
      | .ok (some (s, r')) => (cutter.pieces (lastEndsWord s) r').after (.span s)
      | .ok none =>
        match _mark : cutter.mark? (c :: r) with
        | some (m, r') => (cutter.pieces false r').after (.mark m)
        | none => (cutter.pieces (endsWord c) r).after (.plain c)
termination_by t.length
decreasing_by
  · simp
  · simp
  · obtain ⟨heq, hs⟩ := eq_append_of_span? _span
    have := List.length_pos_iff.2 hs
    rw [heq, List.length_append]
    omega
  · obtain ⟨heq, hm⟩ := eq_append_of_firstMark _mark
    have := List.length_pos_iff.2 hm
    rw [heq, List.length_append]
    omega
  · simp

/-- Nothing is lost: the pieces are the input up to where the reading stopped. -/
theorem Cutter.exists_append_of_pieces (cutter : Cutter) (word : Bool) (t : Text) :
    ∃ r, t = (cutter.pieces word t).pieces.flatMap Piece.text ++ r ∧
      ((cutter.pieces word t).stop = none → r = []) := by
  fun_induction Cutter.pieces cutter word t with
  | case1 => exact ⟨[], by simp⟩
  | case2 _ c r h ih =>
    obtain ⟨r', h', hn⟩ := ih
    refine ⟨r', ?_, hn⟩
    rw [h.2.1]
    simpa [Pieces.after, Piece.text] using h'
  | case3 _ c r _ h ih =>
    obtain ⟨r', h', hn⟩ := ih
    refine ⟨r', ?_, hn⟩
    rw [h.2]
    simpa [Pieces.after, Piece.text] using h'
  | case4 _ c r => exact ⟨c :: r, by simp⟩
  | case5 word c r _ _ s r' hs ih =>
    obtain ⟨r'', h', hn⟩ := ih
    refine ⟨r'', ?_, hn⟩
    rw [(eq_append_of_span? hs).1]
    simpa [Pieces.after, Piece.text] using h'
  | case6 word c r _ _ _ m r' hm ih =>
    obtain ⟨r'', h', hn⟩ := ih
    refine ⟨r'', ?_, hn⟩
    rw [(eq_append_of_firstMark hm).1]
    simpa [Pieces.after, Piece.text] using h'
  | case7 word c r _ _ _ _ ih =>
    obtain ⟨r', h', hn⟩ := ih
    refine ⟨r', ?_, hn⟩
    simpa [Pieces.after, Piece.text] using h'

end QueryShorthand
