import QueryShorthand.Condition.Reader
import QueryShorthand.Proofs.Token.Copy

/-! Leaves that are read again, alone and at the operators. -/
namespace QueryShorthand

variable {cutter : Cutter} {input leaf t rest : Text} {word : Bool} {levels : List Level}
  {ts tokens : List Token} {delimiters : List Text}

/-- The leaf is the trimmed text in front of `rest`, where a leaf of `input` ends. -/
structure Cutter.CutOut (cutter : Cutter) (input text rest : Text) : Prop where
  part : text ++ rest <:+ input
  copied : cutter.Copies rest false text
  ends : rest = [] ∨ rest.head? = some ')' ∨ ∃ m r, cutter.mark? rest = some (m, r)

/-- The text of the level is what was read since its last cut. -/
structure Cutter.Reading (cutter : Cutter) (input : Text) (word : Bool) (t : Text) (level : Level) :
    Prop where
  part : level.text ++ t <:+ input
  copied : cutter.Copies t false level.text
  word_eq : wordAfter false level.text = word

namespace Cutter

theorem reading_start {tokens : List Token} {group : Option (Text × List Token)} (h : t <:+ input) :
    cutter.Reading input false t ⟨tokens, group, []⟩ :=
  ⟨h, .nil, rfl⟩

theorem Reading.suffix {level : Level} (h : cutter.Reading input word t level) : t <:+ input :=
  (List.suffix_append _ _).trans h.part

theorem Reading.add {level : Level} {s : Text} (h : cutter.Reading input word (s ++ t) level)
    (hs : cutter.Copies t word s) (hne : s ≠ []) :
    cutter.Reading input (lastEndsWord s) t (level.add s) where
  part := by
    rw [Level.add, List.append_assoc]
    exact h.part
  copied := by
    refine h.copied.append ?_
    rw [h.word_eq]
    exact hs
  word_eq := by
    change wordAfter false (level.text ++ s) = _
    rw [wordAfter_append, wordAfter_of_ne_nil hne]

/-- The leaf belongs to one of the open levels, or it was cut out of the input. -/
def Accounted (cutter : Cutter) (input leaf : Text) (levels : List Level) : Prop :=
  (∃ level ∈ levels, leaf ∈ level.leaves) ∨
    leaf ≠ [] ∧ ∃ text rest, cutter.CutOut input text rest ∧ leaf = text.trim

theorem Accounted.of_head {level : Level} (hm : level ∈ levels) (hl : leaf ∈ level.leaves) :
    cutter.Accounted input leaf levels :=
  .inl ⟨level, hm, hl⟩

theorem Accounted.imp {level : Level} {rest levels : List Level}
    (h : cutter.Accounted input leaf (level :: rest)) (hrest : rest ⊆ levels)
    (hl : leaf ∈ level.leaves → cutter.Accounted input leaf levels) :
    cutter.Accounted input leaf levels := by
  rcases h with ⟨l, hmem, hleaf⟩ | h
  · rcases List.mem_cons.1 hmem with rfl | hmem
    · exact hl hleaf
    · exact .of_head (hrest hmem) hleaf
  · exact .inr h

/-- A leaf that a level yields was there before, or it is the text of the level. -/
theorem Reading.leaf_complete {level : Level} (h : cutter.Reading input word t level)
    (hm : level ∈ levels)
    (hends : t = [] ∨ t.head? = some ')' ∨ ∃ m r, cutter.mark? t = some (m, r))
    (hl : leaf ∈ Token.leavesAll level.complete) : cutter.Accounted input leaf levels := by
  rw [Level.complete, Token.leavesAll_append] at hl
  rcases List.mem_append.1 hl with hl | hl
  · exact .of_head hm (List.mem_append_left _ hl)
  · unfold Level.last at hl
    split at hl
    · next lead inner hg =>
      refine .of_head hm ?_
      rw [Level.leaves, hg]
      exact List.mem_append_right _ (by simpa [Token.leavesAll, Token.leaves] using hl)
    · split at hl
      · simp [Token.leavesAll] at hl
      · next hne =>
        obtain rfl : leaf = level.text.trim := by simpa [Token.leavesAll, Token.leaves] using hl
        exact .inr ⟨hne, level.text, t, ⟨h.part, h.copied, hends⟩, rfl⟩

theorem Scans.cutOut (h : cutter.Scans levels word t ts)
    (hr : ∀ level, levels.head? = some level → cutter.Reading input word t level)
    (hl : leaf ∈ Token.leavesAll ts) : cutter.Accounted input leaf levels := by
  induction h with
  | @done level word => exact (hr level rfl).leaf_complete List.mem_cons_self (.inl rfl) hl
  | @opened level levels r ts hc hg _ ih =>
    have hrest := (List.suffix_cons '(' r).trans (hr level rfl).suffix
    refine (ih (by rintro _ ⟨⟩; exact reading_start hrest) hl).imp (List.Subset.refl _)
      fun hleaf => ?_
    cases hleaf
  | @closed level outer levels word r ts hc ho _ ih =>
    have hread := hr level rfl
    have hrest := (List.suffix_cons ')' r).trans hread.suffix
    refine (ih (by rintro _ ⟨⟩; exact reading_start hrest) hl).imp (by simp) fun hleaf => ?_
    rcases List.mem_append.1 hleaf with hleaf | hleaf
    · exact .of_head (List.mem_cons_of_mem _ List.mem_cons_self) (List.mem_append_left _ hleaf)
    · exact hread.leaf_complete List.mem_cons_self (.inr (.inl rfl)) hleaf
  | @span level levels word c r s r' ts hp hs _ ih =>
    obtain ⟨heq, hne⟩ := eq_append_of_span? hs
    have hread := hr level rfl
    rw [heq] at hread
    have hadd := hread.add (Copies.of_span hp hs) hne
    refine (ih (by rintro _ ⟨⟩; exact hadd) hl).imp (List.subset_cons_self ..) fun hleaf => ?_
    exact .of_head List.mem_cons_self hleaf
  | @mark level levels word c r m r' ts hp hs hm _ ih =>
    have hread := hr level rfl
    have hrest : r' <:+ input := by
      refine List.IsSuffix.trans ?_ hread.suffix
      rw [(eq_append_of_firstMark hm).1]
      exact List.suffix_append m r'
    refine (ih (by rintro _ ⟨⟩; exact reading_start hrest) hl).imp (List.subset_cons_self ..)
      fun hleaf => ?_
    refine hread.leaf_complete List.mem_cons_self (.inr (.inr ⟨m, r', hm⟩)) ?_
    simpa [Level.leaves, Token.leavesAll_append, Token.leavesAll, Token.leaves] using hleaf
  | @plain level levels word c r ts hp hs hm _ ih =>
    have hread := hr level rfl
    have hadd := hread.add (s := [c]) (Copies.of_plain hp hs hm) (by simp)
    refine (ih (by rintro _ ⟨⟩; exact hadd) hl).imp (List.subset_cons_self ..) fun hleaf => ?_
    exact .of_head List.mem_cons_self hleaf

end Cutter

namespace Token

/-- A delimiter begins with `=`, which keeps the delimiter that ends the leaf from being one. -/
def Torn (delimiters : List Text) (leaf : Text) : Prop :=
  (∃ d ∈ delimiters, d.head? = some '=') ∧ ∃ m ∈ delimiters, m ≠ [] ∧ m <:+ leaf

/-- The leaf is what was read in front of `v`: all of it, or all but the backslash that escapes the
blank at the head of `v`. -/
structure Kept (delimiters : List Text) (leaf text behind v : Text) : Prop where
  split : leaf = text ++ behind
  copied : (Cutter.delimiters delimiters).Copies (behind ++ v) false text
  escape : behind = [] ∨ behind = ['\\'] ∧ ∃ d, v.head? = some d ∧ isBlank d = true
  equals : v.head? = some '=' → ∃ d ∈ delimiters, d.head? = some '='

theorem exists_kept (h : read delimiters input = .ok tokens) (hl : leaf ∈ leavesAll tokens) :
    leaf ≠ [] ∧ leaf.trim = leaf ∧ ∃ text behind v, Kept delimiters leaf text behind v ∧
      leaf ++ v <:+: input := by
  have hscans := Cutter.read_eq_ok_iff.1 h
  have hstart : ∀ level, [({} : Level)].head? = some level →
      (Cutter.delimiters delimiters).Reading input false input level := by
    rintro _ ⟨⟩
    exact Cutter.reading_start List.suffix_rfl
  rcases hscans.cutOut hstart hl with ⟨level, hmem, hl⟩ | ⟨hne, text, rest, hcut, rfl⟩
  · obtain rfl := List.mem_singleton.1 hmem
    cases hl
  · refine ⟨hne, Text.trim_trim text, ?_⟩
    obtain ⟨b, b', w, x, hb', htext, hsplit, hw, hx⟩ := hcut.copied.trim
    refine ⟨w, x, b' ++ rest, ⟨hsplit, hw, ?_, ?_⟩, ?_⟩
    · rcases hx with rfl | ⟨rfl, hne'⟩
      · exact .inl rfl
      · obtain ⟨d, b', rfl⟩ := List.exists_cons_of_ne_nil hne'
        exact .inr ⟨rfl, d, rfl, hb' d List.mem_cons_self⟩
    · intro he
      cases b' with
      | cons d b' =>
        obtain rfl : d = '=' := by simpa using he
        exact absurd ( hb' '=' List.mem_cons_self) (by decide)
      | nil =>
        rw [List.nil_append] at he
        rcases hcut.ends with rfl | hclose | ⟨m, r, hm⟩
        · cases he
        · rw [he] at hclose
          cases hclose
        · obtain ⟨heq, hm'⟩ := eq_append_of_firstMark hm
          obtain ⟨d, m, rfl⟩ := List.exists_cons_of_ne_nil hm'
          rw [heq] at he
          exact ⟨d :: m, mem_of_mem_longestFirst (mem_of_firstMark hm), he⟩
    · refine List.IsInfix.trans ⟨b, [], ?_⟩ hcut.part.isInfix
      rw [hsplit, htext]
      simp

theorem Kept.dangles_iff {text behind v : Text} (h : Kept delimiters leaf text behind v) :
    leaf.Dangles ↔ behind = ['\\'] := by
  have htext : ¬ text.Dangles := by
    have hempty : ¬ Text.Dangles [] := by decide
    exact h.copied.not_dangles hempty
  rw [h.split]
  rcases h.escape with rfl | ⟨rfl, -⟩
  · rw [List.append_nil]
    exact ⟨fun hd => absurd hd htext, fun hd => absurd hd (by decide)⟩
  · rw [Text.dangles_backslash]
    exact ⟨fun _ => rfl, fun _ => htext⟩

def dangling (t : Text) : Error := .cut (t.byteSize - 1) .danglingEscape

theorem pieces_backslash (cutter : Cutter) (word : Bool) :
    cutter.pieces word ['\\'] = ⟨[], some ⟨.danglingEscape, ['\\']⟩⟩ := by
  rw [Cutter.pieces, if_neg (by simp), if_neg (by simp)]
  split <;> simp_all [span?, atom, Except.map]

theorem read_append (h : (Cutter.delimiters delimiters).Copies rest false t) :
    read delimiters (t ++ rest) =
      assemble .ok (Stop.error (t ++ rest))
        ((Cutter.delimiters delimiters).pieces (wordAfter false t) rest).stop [] { text := t }
        ((Cutter.delimiters delimiters).pieces (wordAfter false t) rest).pieces :=
  h.assemble

theorem read_of_copies (h : (Cutter.delimiters delimiters).Copies [] false leaf) (hne : leaf ≠ [])
    (htrim : leaf.trim = leaf) : read delimiters leaf = .ok [.leaf leaf] := by
  have hread := read_append h
  rw [List.append_nil] at hread
  rw [hread, Cutter.pieces, assemble, Level.flushed_ok]
  simp [Level.complete, Level.last, htrim, hne]

theorem read_of_copies_dangling (h : (Cutter.delimiters delimiters).Copies ['\\'] false t) :
    read delimiters (t ++ ['\\']) = .error (dangling (t ++ ['\\'])) := by
  rw [read_append h, pieces_backslash]
  rfl

theorem symbolic_operators : (Cutter.operators Operator.symbols).Symbolic where
  flat := rfl
  marks m hm := by
    have hall : ∀ m ∈ Operator.symbols, (m.all fun d => !startsSpan d && !endsWord d) = true :=
      List.all_eq_true.1 (by decide)
    intro d hd
    have hsign := List.all_eq_true.1 (hall m (mem_of_mem_longestFirst hm)) d hd
    simpa using hsign

theorem split_of_copies (h : cutter.Copies [] false t) :
    ∃ parts, Clip.split Operator.symbols t = .ok parts := by
  have hstop := symbolic_operators.stop h (by simp)
  rw [List.append_nil] at hstop
  rw [Clip.split, hstop, Cutter.pieces]
  exact ⟨_, rfl⟩

theorem split_of_copies_dangling (h : cutter.Copies ['\\'] false t) :
    Clip.split Operator.symbols (t ++ ['\\']) = .error (dangling (t ++ ['\\'])) := by
  have hescape : ∀ m ∈ (Cutter.operators Operator.symbols).marks, ∀ d ∈ m, some '\\' ≠ some d := by
    rintro m hm d hd ⟨⟩
    exact absurd (symbolic_operators.marks m hm _ hd).1 (by decide)
  have hstop := symbolic_operators.stop h hescape
  rw [pieces_backslash] at hstop
  rw [Clip.split, hstop]
  rfl

/-- The negations in front of a copied text leave out nothing that a span needs. -/
theorem copies_negation {behind : Text} (h : cutter.Copies rest false t)
    (hb : behind = [] ∨ behind = ['\\']) :
    ∃ u, cutter.Copies rest false u ∧ (t ++ behind).dropWhile Expr.isNegation = u ++ behind := by
  refine ⟨t.dropWhile Expr.isNegation, ?_, ?_⟩
  · rw [← List.takeWhile_append_dropWhile (p := Expr.isNegation) (l := t)] at h
    refine h.behind fun d hd => ?_
    have hneg := List.mem_takeWhile_imp hd
    simp only [Expr.isNegation, Bool.or_eq_true, beq_iff_eq] at hneg
    rcases hneg with rfl | hblank
    · exact ⟨by decide, by decide⟩
    · exact plain_of_isBlank hblank
  · rw [List.dropWhile_append]
    split
    · next hnil =>
      rw [List.isEmpty_iff.1 hnil]
      rcases hb with rfl | rfl <;> rfl
    · rfl

theorem Kept.whole {text behind v : Text} (h : Kept delimiters leaf text behind v)
    (hd : ¬ leaf.Dangles) (hne : leaf ≠ []) (htrim : leaf.trim = leaf) :
    (¬ Torn delimiters leaf → read delimiters leaf = .ok [.leaf leaf]) ∧
    (∃ parts, Clip.split Operator.symbols leaf = .ok parts) ∧
    ∃ parts, Clip.split Operator.symbols (leaf.dropWhile Expr.isNegation) = .ok parts := by
  have hbehind : behind = [] := by
    rcases h.escape with hb | ⟨hb, -⟩
    · exact hb
    · exact absurd (h.dangles_iff.2 hb) hd
  subst hbehind
  obtain rfl : leaf = text := by rw [h.split, List.append_nil]
  have hsigns := h.copied.unmarked
  obtain ⟨u, hu, hdrop⟩ := copies_negation hsigns (.inl rfl)
  rw [List.append_nil, List.append_nil] at hdrop
  refine ⟨fun htorn => ?_, split_of_copies hsigns, ?_⟩
  · refine read_of_copies (h.copied.cut fun he m hm hm' hsuf => htorn ?_) hne htrim
    rw [List.append_nil] at hsuf
    exact ⟨h.equals he, m, mem_of_mem_longestFirst hm, hm', hsuf⟩
  · rw [hdrop]
    exact split_of_copies hu

theorem Kept.refused {text behind v : Text} (h : Kept delimiters leaf text behind v)
    (hd : leaf.Dangles) :
    (∃ d, v.head? = some d ∧ isBlank d = true) ∧ read delimiters leaf = .error (dangling leaf) ∧
    Clip.split Operator.symbols leaf = .error (dangling leaf) ∧
    Expr.ofLeaf leaf = .error (dangling (leaf.dropWhile Expr.isNegation)) := by
  obtain rfl := h.dangles_iff.1 hd
  have hsigns := h.copied.unmarked
  obtain ⟨d, hv, hblank⟩ : ∃ d, v.head? = some d ∧ isBlank d = true := by
    rcases h.escape with hb | ⟨-, hd⟩
    · cases hb
    · exact hd
  have hcut : (Cutter.delimiters delimiters).Copies ['\\'] false text := by
    refine h.copied.cut fun he => ?_
    rw [hv] at he
    obtain rfl := Option.some.inj he
    exact absurd hblank (by decide)
  refine ⟨⟨d, hv, hblank⟩, ?_, ?_, ?_⟩
  · rw [h.split]
    exact read_of_copies_dangling hcut
  · rw [h.split]
    exact split_of_copies_dangling hsigns
  · obtain ⟨u, hu, hdrop⟩ := copies_negation hsigns (.inr rfl)
    rw [← h.split] at hdrop
    rw [Expr.ofLeaf, Expr.ofBody, hdrop, split_of_copies_dangling hu]
    rfl

/-- Alone, a leaf is read as that leaf and can be cut at the operators, with its negations or
without. A leaf that ends within an escape is the exception: its blank was trimmed off. -/
theorem leaf_stable (h : read delimiters input = .ok tokens) (hl : leaf ∈ leavesAll tokens) :
    (¬ leaf.Dangles →
      (¬ Torn delimiters leaf → read delimiters leaf = .ok [.leaf leaf]) ∧
      (∃ parts, Clip.split Operator.symbols leaf = .ok parts) ∧
      ∃ parts, Clip.split Operator.symbols (leaf.dropWhile Expr.isNegation) = .ok parts) ∧
    (leaf.Dangles →
      (∃ d, isBlank d = true ∧ leaf ++ [d] <:+: input) ∧
      read delimiters leaf = .error (dangling leaf) ∧
      Clip.split Operator.symbols leaf = .error (dangling leaf) ∧
      Expr.ofLeaf leaf = .error (dangling (leaf.dropWhile Expr.isNegation))) := by
  obtain ⟨hne, htrim, text, behind, v, hkept, hpart⟩ := exists_kept h hl
  constructor
  · intro hd
    exact hkept.whole hd hne htrim
  · intro hd
    obtain ⟨⟨d, hv, hblank⟩, hfaults⟩ := hkept.refused hd
    refine ⟨⟨d, hblank, ?_⟩, hfaults⟩
    obtain ⟨r, rfl⟩ := List.head?_eq_some_iff.1 hv
    refine List.IsInfix.trans ⟨[], r, ?_⟩ hpart
    simp

theorem leaf_stable_nested : ∃ tokens,
    read [[','], ['|']] "(! f(b, ')') = 'x,y' | d\\ ),e".toList = .ok tokens ∧
      leavesAll tokens = ["! f(b, ')') = 'x,y'".toList, "d\\".toList, "e".toList] ∧
      read [[','], ['|']] "! f(b, ')') = 'x,y'".toList = .ok [.leaf "! f(b, ')') = 'x,y'".toList] ∧
      Expr.ofLeaf "d\\".toList = .error (.cut 1 .danglingEscape) := by
  have hread : (read [[','], ['|']] "(! f(b, ')') = 'x,y' | d\\ ),e".toList).map leavesAll =
      .ok ["! f(b, ')') = 'x,y'".toList, "d\\".toList, "e".toList] := by decide +kernel
  obtain ⟨tokens, h, hleaves⟩ := exists_of_map_eq_ok hread
  have hfirst : "! f(b, ')') = 'x,y'".toList ∈ leavesAll tokens := by
    rw [hleaves]
    exact List.mem_cons_self
  have hsecond : "d\\".toList ∈ leavesAll tokens := by
    rw [hleaves]
    exact List.mem_cons_of_mem _ List.mem_cons_self
  have hwhole : ¬ Torn [[','], ['|']] "! f(b, ')') = 'x,y'".toList := by
    rintro ⟨⟨d, hd, he⟩, -⟩
    revert d
    decide
  refine ⟨tokens, h, hleaves, ((leaf_stable h hfirst).1 (by decide)).1 hwhole, ?_⟩
  exact ((leaf_stable h hsecond).2 (by decide)).2.2.2

/-- A blank that was escaped, and a delimiter in front of `=`, do not survive in the leaf. -/
theorem leaf_unstable :
    ((read [[','], ['|']] "a\\ ".toList).map leavesAll = .ok ["a\\".toList] ∧
      (read [[','], ['|']] "a\\".toList).map leavesAll = .error (.cut 1 .danglingEscape) ∧
      Clip.split Operator.symbols "a\\".toList = .error (.cut 1 .danglingEscape) ∧
      (Condition.read "a\\ ".toList).map Condition.source = .error (.cut 1 .danglingEscape)) ∧
    (read [['|'], ['=']] "a|=b".toList).map leavesAll = .ok ["a|".toList, "b".toList] ∧
      (read [['|'], ['=']] "a|".toList).map leavesAll = .ok ["a".toList] := by
  decide +kernel

end Token

end QueryShorthand
