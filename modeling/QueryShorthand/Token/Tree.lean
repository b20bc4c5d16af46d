import QueryShorthand.Token.Basic
import QueryShorthand.Token.Lexer

/-! Reading a text as a token tree. The pieces of the text are assembled level by level; a hook may
change or refuse each leaf when it is complete. -/

namespace QueryShorthand

structure Level where
  tokens : List Token := []
  /-- The group closed last, with its lead, while its tail is read. -/
  group : Option (Text × List Token) := none
  /-- What was read since the last combinator or parenthesis. -/
  text : Text := []

namespace Level

def add (level : Level) (t : Text) : Level := { level with text := level.text ++ t }

/-- The tokens of the level once its pending group or leaf is complete; blank text is no leaf. -/
def flushed (hook : Text → Except Error Text) (level : Level) : Except Error (List Token) :=
  match level.group with
  | some (lead, inner) => .ok (level.tokens ++ [.group lead inner level.text.trim])
  | none =>
    if level.text.trim = [] then .ok level.tokens
    else (hook level.text.trim).map fun leaf => level.tokens ++ [.leaf leaf]

end Level

namespace Token

/-- Assembles `pieces` into the tokens of the outermost level. `stack` holds the enclosing levels,
the innermost first, each with the text from the parenthesis that opened the level inside it. -/
def assemble (hook : Text → Except Error Text) (fail : Stop → Error) (stop : Option Stop) :
    List (Text × Level) → Level → List Piece → Except Error (List Token)
  | stack, level, [] =>
    match stop, stack with
    | some s, _ => .error (fail s)
    | none, (here, _) :: _ => .error (fail ⟨.unbalancedOpen, here⟩)
    | none, [] => level.flushed hook
  | stack, level, .plain c :: ps => assemble hook fail stop stack (level.add [c]) ps
  | stack, level, .span t :: ps => assemble hook fail stop stack (level.add t) ps
  | stack, level, .mark m :: ps =>
    match level.flushed hook with
    | .error e => .error e
    | .ok tokens => assemble hook fail stop stack { tokens := tokens ++ [.combinator m] } ps
  | stack, level, .opened here :: ps =>
    if level.group.isSome then .error (fail ⟨.openAfterGroup, here⟩)
    else assemble hook fail stop ((here, level) :: stack) {} ps
  | stack, level, .closed here :: ps =>
    match stack with
    | [] => .error (fail ⟨.unbalancedClose, here⟩)
    | (_, outer) :: stack' =>
      match level.flushed hook with
      | .error e => .error e
      | .ok tokens =>
        assemble hook fail stop stack'
          { tokens := outer.tokens, group := some (outer.text.trim, tokens) } ps

/-- Reads `input`, cut at `delimiters`, passing each leaf through `hook`. -/
def readWith (hook : Text → Except Error Text) (delimiters : List Text) (input : Text) :
    Except Error (List Token) :=
  let cut := (Cutter.delimiters delimiters).pieces false input
  assemble hook (Stop.error input) cut.stop [] {} cut.pieces

def read (delimiters : List Text) (input : Text) : Except Error (List Token) :=
  readWith .ok delimiters input

def LeavesWithin (n : Nat) (tokens : List Token) : Prop :=
  ∀ t, leaf t ∈ tokens → t.length ≤ n

theorem leavesWithin_flushed {level : Level} {tokens : List Token} {n : Nat}
    (h : level.flushed .ok = .ok tokens) (ht : LeavesWithin n level.tokens)
    (hn : level.text.length ≤ n) : LeavesWithin n tokens := by
  unfold Level.flushed at h
  split at h
  · cases h
    intro t hm
    exact ht t (by simpa using hm)
  · split at h
    · cases h
      exact ht
    · simp only [Except.map, Except.ok.injEq] at h
      subst h
      intro t hm
      simp only [List.mem_append, List.mem_singleton, leaf.injEq] at hm
      rcases hm with hm | rfl
      · exact ht t hm
      · exact Nat.le_trans (Text.length_trim_le _) hn

theorem leavesWithin_assemble {fail : Stop → Error} {stop : Option Stop} {n : Nat}
    {pieces : List Piece} {stack : List (Text × Level)} {level : Level} {tokens : List Token}
    (h : assemble .ok fail stop stack level pieces = .ok tokens)
    (hs : ∀ l ∈ stack, LeavesWithin n l.2.tokens) (hl : LeavesWithin n level.tokens)
    (hn : level.text.length + (pieces.flatMap Piece.text).length ≤ n) : LeavesWithin n tokens := by
  fun_induction assemble (.ok : Text → Except Error Text) fail stop stack level pieces with
  | case1 => simp at h
  | case2 => simp at h
  | case3 stack level => exact leavesWithin_flushed h hl (by simpa using hn)
  | case4 stack level c ps ih =>
    refine ih h hs hl ?_
    simp [Level.add, Piece.text] at hn ⊢
    omega
  | case5 stack level t ps ih =>
    refine ih h hs hl ?_
    simp [Level.add, Piece.text] at hn ⊢
    omega
  | case6 => simp at h
  | case7 stack level m ps ts hf ih =>
    refine ih h hs ?_ ?_
    · intro t hm
      simp only [List.mem_append, List.mem_singleton, reduceCtorEq, or_false] at hm
      exact leavesWithin_flushed hf hl (by omega) t hm
    · simp at hn ⊢
      omega
  | case8 => simp at h
  | case9 stack level here ps hg ih =>
    refine ih h ?_ (by simp [LeavesWithin]) ?_
    · simpa using ⟨hl, fun a b hm => hs (a, b) hm⟩
    · simp [Piece.text] at hn ⊢
      omega
  | case10 => simp at h
  | case11 => simp at h
  | case12 level here ps h0 outer stack ts hf ih =>
    refine ih h (fun l hm => hs l (by simp [hm])) ?_ ?_
    · exact hs _ (List.mem_cons_self ..)
    · simp [Piece.text] at hn ⊢
      omega

theorem length_le_of_read {delimiters : List Text} {input t : Text} {tokens : List Token}
    (h : read delimiters input = .ok tokens) (hm : leaf t ∈ tokens) : t.length ≤ input.length := by
  obtain ⟨r, hr, _⟩ := (Cutter.delimiters delimiters).exists_append_of_pieces false input
  refine leavesWithin_assemble (n := input.length) h (by simp) (by simp [LeavesWithin]) ?_ t hm
  have := congrArg List.length hr
  simp only [List.length_append] at this
  simp
  simp at this
  omega

end Token

end QueryShorthand
