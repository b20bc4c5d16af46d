import QueryShorthand.Operand.Column
import QueryShorthand.Proofs.Token.Enclosed
import QueryShorthand.Proofs.Token.Scan
import QueryShorthand.Token.Clip

/-! Texts that are not cut, whatever follows. -/
namespace QueryShorthand

def markHeads : Text := ",|=!*^$#@:~&><".toList

def specials : Text := "\\'\"\x60[(-)".toList ++ markHeads

/-- Whether a word ends right after `t`, if one ends right before it or not. -/
def wordAfter (word : Bool) (t : Text) : Bool := t.foldl (fun _ c => endsWord c) word

theorem Level.add_add (level : Level) (s t : Text) : (level.add s).add t = level.add (s ++ t) := by
  simp [Level.add]

theorem Level.add_nil (level : Level) : level.add [] = level := by
  obtain ⟨tokens, group, text⟩ := level
  simp [Level.add]

namespace Cutter

def StartsIn (cutter : Cutter) (heads : Text) : Prop :=
  ∀ m ∈ cutter.marks, m.head?.any (heads.contains ·) = true

/-- What the delimiters and the operators of conditions have in common. -/
structure Usual (cutter : Cutter) : Prop where
  heads : cutter.StartsIn markHeads
  colon : ∀ m ∈ cutter.marks, m.head? = some ':' → m = [':', '=']

/-- The text is read without a cut, whatever follows. -/
inductive Inside (cutter : Cutter) : Bool → Text → Prop where
  | nil {word : Bool} : Inside cutter word []
  | plain {word : Bool} {c : Char} {r : Text} (hp : ¬ cutter.Groups word c)
      (hs : ∀ v, span? word c (r ++ v) = .ok none) (hm : ∀ v, cutter.mark? (c :: (r ++ v)) = none)
      (h : Inside cutter (endsWord c) r) : Inside cutter word (c :: r)
  | span {word : Bool} {c : Char} {r s r' : Text} (hp : ¬ cutter.Groups word c)
      (hs : ∀ v, span? word c (r ++ v) = .ok (some (s, r' ++ v)))
      (h : Inside cutter (lastEndsWord s) r') : Inside cutter word (c :: r)

variable {cutter : Cutter} {word : Bool} {c : Char} {s t u r v : Text}

theorem wordAfter_append (word : Bool) (s t : Text) :
    wordAfter word (s ++ t) = wordAfter (wordAfter word s) t := List.foldl_append

theorem wordAfter_of_ne_nil (hs : s ≠ []) : wordAfter word s = lastEndsWord s := by
  obtain ⟨s, c, rfl⟩ := List.eq_nil_or_concat s |>.resolve_left hs
  simp [wordAfter, lastEndsWord]

theorem eq_append_of_span_always {r' : Text}
    (hs : ∀ v, span? word c (r ++ v) = .ok (some (s, r' ++ v))) : c :: r = s ++ r' ∧ s ≠ [] := by
  have h := eq_append_of_span? (hs [])
  simpa using h

theorem wordAfter_of_span {r' : Text}
    (hs : ∀ v, span? word c (r ++ v) = .ok (some (s, r' ++ v))) :
    wordAfter word (c :: r) = wordAfter (lastEndsWord s) r' := by
  obtain ⟨heq, hne⟩ := eq_append_of_span_always hs
  rw [heq, wordAfter_append, wordAfter_of_ne_nil hne]

namespace Inside

theorem append (hs : Inside cutter word s) (ht : Inside cutter (wordAfter word s) t) :
    Inside cutter word (s ++ t) := by
  induction hs with
  | nil => exact ht
  | @plain word c r hp hs hm _ ih =>
    refine .plain hp (fun v => ?_) (fun v => ?_) (ih ht)
    · have hv := hs (t ++ v)
      rwa [← List.append_assoc] at hv
    · have hv := hm (t ++ v)
      rwa [← List.append_assoc] at hv
  | @span word c r s r' hp hs _ ih =>
    rw [wordAfter_of_span hs] at ht
    refine .span hp (fun v => ?_) (ih ht)
    have hv := hs (t ++ v)
    rwa [← List.append_assoc, ← List.append_assoc] at hv

theorem scans_iff {level : Level} {levels : List Level} {ts : List Token}
    (h : Inside cutter word u) :
    Scans cutter (level :: levels) word (u ++ r) ts ↔
      Scans cutter (level.add u :: levels) (wordAfter word u) r ts := by
  induction h generalizing level with
  | nil =>
    rw [Level.add_nil]
    rfl
  | @plain word c u hp hs hm _ ih =>
    rw [List.cons_append, scans_plain_iff hp (hs r) (hm r), ih, Level.add_add]
    rfl
  | @span word c u s u' hp hs _ ih =>
    rw [List.cons_append, scans_span_iff hp (hs r), ih, Level.add_add, wordAfter_of_span hs,
      (eq_append_of_span_always hs).1]

theorem scans {level : Level} {levels : List Level} {ts : List Token} (h : Inside cutter word u)
    (hr : Scans cutter (level.add u :: levels) (wordAfter word u) r ts) :
    Scans cutter (level :: levels) word (u ++ r) ts :=
  h.scans_iff.2 hr

theorem parts (text : Text) (h : Inside cutter word u) :
    (cutter.pieces word (u ++ r)).stop = (cutter.pieces (wordAfter word u) r).stop ∧
      Clip.parts text (cutter.pieces word (u ++ r)).pieces =
        Clip.parts (text ++ u) (cutter.pieces (wordAfter word u) r).pieces := by
  induction h generalizing text with
  | nil => exact ⟨rfl, by rw [List.append_nil]; rfl⟩
  | @plain word c u hp hs hm _ ih =>
    obtain ⟨hstop, hparts⟩ := ih (text ++ [c])
    rw [List.append_assoc] at hparts
    rw [List.cons_append, pieces_plain hp (hs r) (hm r)]
    exact ⟨hstop, hparts⟩
  | @span word c u s u' hp hs _ ih =>
    obtain ⟨hstop, hparts⟩ := ih (text ++ s)
    rw [List.append_assoc, ← (eq_append_of_span_always hs).1] at hparts
    rw [List.cons_append, pieces_span hp (hs r), wordAfter_of_span hs]
    exact ⟨hstop, hparts⟩

theorem ends (level : Level) (h : Inside cutter word u) :
    Scans cutter [level] word u (level.add u).complete := by
  have hs : Scans cutter [level] word (u ++ []) (level.add u).complete := h.scans .done
  rwa [List.append_nil] at hs

theorem leaf (h : Inside cutter false u) (hu : u.trim ≠ []) :
    Scans cutter [{}] false u [.leaf u.trim] := by
  simpa [Level.complete, Level.last, Level.add, hu] using h.ends {}

theorem blank (h : Inside cutter false u) (hu : u.trim = []) : Scans cutter [{}] false u [] := by
  simpa [Level.complete, Level.last, Level.add, hu] using h.ends {}

end Inside

theorem mark?_eq_none (h : ∀ m ∈ cutter.marks, ∀ r, t ≠ m ++ r) : cutter.mark? t = none := by
  have general : ∀ marks : List Text, (∀ m ∈ marks, ∀ r, t ≠ m ++ r) → ∀ follow,
      firstMark marks follow t = none := by
    intro marks
    induction marks with
    | nil => intro _ _; rfl
    | cons m marks ih =>
      intro hm follow
      rw [List.forall_mem_cons] at hm
      have hnone : Text.after? m t = none := by
        cases ha : Text.after? m t with
        | none => rfl
        | some r => exact absurd (Text.after?_eq_some_iff.1 ha) (hm.1 r)
      rw [firstMark, hnone]
      exact ih hm.2 follow
  exact general cutter.marks h _

theorem StartsIn.head {heads m : Text} (hs : cutter.StartsIn heads) (hm : m ∈ cutter.marks) :
    ∃ d ∈ heads, ∃ r, m = d :: r := by
  cases m with
  | nil => cases hs [] hm
  | cons d r => exact ⟨d, by simpa using hs _ hm, r, rfl⟩

theorem Usual.specials (hu : cutter.Usual) : cutter.StartsIn specials := by
  intro m hm
  obtain ⟨d, hd, r, rfl⟩ := hu.heads.head hm
  have hspecial : d ∈ QueryShorthand.specials := List.mem_append_right _ hd
  simpa using hspecial

theorem StartsIn.mark?_eq_none {heads : Text} (hs : cutter.StartsIn heads) (hc : c ∉ heads) :
    cutter.mark? (c :: t) = none := by
  refine Cutter.mark?_eq_none fun m hm r h => ?_
  obtain ⟨d, hd, m', rfl⟩ := hs.head hm
  obtain ⟨rfl, -⟩ := List.cons.inj h
  exact hc hd

theorem not_groups_of_special (hc : c ∉ specials) : ¬ cutter.Groups word c := by
  rintro ⟨-, ⟨rfl, -⟩ | rfl⟩
  · exact hc (by decide)
  · exact hc (by decide)

theorem startsSpan_of_special (hc : c ∉ specials) : startsSpan c = false := by
  by_contra h
  simp only [startsSpan, isQuote, Bool.not_eq_false, Bool.or_eq_true, beq_iff_eq] at h
  rcases h with (((rfl | (rfl | rfl) | rfl) | rfl) | rfl) | rfl <;> exact hc (by decide)

theorem inside_char (hs : cutter.StartsIn specials) (hc : c ∉ specials) : Inside cutter word [c] :=
  .plain (not_groups_of_special hc) (fun _ => span?_of_not_startsSpan (startsSpan_of_special hc))
    (fun _ => hs.mark?_eq_none hc) .nil

theorem inside_chars (hs : cutter.StartsIn specials) (h : ∀ c ∈ t, c ∉ specials) :
    Inside cutter word t := by
  induction t generalizing word with
  | nil => exact .nil
  | cons c t ih =>
    exact (inside_char hs (h c List.mem_cons_self)).append
      (ih fun d hd => h d (List.mem_cons_of_mem _ hd))

theorem inside_colon (hu : cutter.Usual) (hc : c ≠ '=') (h : Inside cutter false (c :: t)) :
    Inside cutter word (':' :: c :: t) := by
  refine .plain (by simp [Groups]) (fun v => span?_of_not_startsSpan (by decide)) (fun v => ?_) h
  refine mark?_eq_none fun m hm r heq => ?_
  obtain ⟨d, -, m', rfl⟩ := hu.heads.head hm
  obtain ⟨rfl, -⟩ := List.cons.inj heq
  rw [hu.colon _ hm rfl] at heq
  simp only [List.cons_append, List.cons.injEq] at heq
  exact hc heq.2.1

theorem inside_minus (hu : cutter.Usual) (hc : c ≠ '>') (h : Inside cutter false (c :: t)) :
    Inside cutter word ('-' :: c :: t) := by
  refine .plain (by simp [Groups]) (fun v => ?_) (fun v => hu.heads.mark?_eq_none (by decide)) h
  rw [span?, if_neg (by decide), if_neg (by decide), if_neg (by simp),
    arrow?_hyphen (by simpa using hc)]

theorem not_groups_of_isQuote (hq : isQuote c = true) : ¬ cutter.Groups word c := by
  rintro ⟨-, ⟨rfl, -⟩ | rfl⟩ <;> exact absurd hq (by decide)

theorem inside_quoted {q : Char} (hq : isQuote q = true) (h : Quotes q t) :
    Inside cutter word (q :: (t ++ [q])) := by
  refine .span (not_groups_of_isQuote hq) (fun v => ?_) .nil (s := q :: (t ++ [q]))
  rw [span?, if_pos (.inr hq), List.append_assoc, List.singleton_append, atom_quoted hq h]
  rfl

theorem inside_bracketed (h : Balanced '[' ']' t) : Inside cutter word ('[' :: (t ++ [']'])) := by
  refine .span (by simp [Groups]) (fun v => ?_) .nil (s := '[' :: (t ++ [']']))
  rw [span?, if_neg (by decide), if_pos rfl, List.append_assoc, List.singleton_append,
    h.enclosed brackets_square]
  rfl

theorem inside_arguments (h : Balanced '(' ')' t) : Inside cutter true ('(' :: (t ++ [')'])) := by
  refine .span (by simp [Groups]) (fun v => ?_) .nil (s := '(' :: (t ++ [')']))
  rw [span?, if_neg (by decide), if_neg (by decide), if_pos ⟨rfl, rfl⟩, List.append_assoc,
    List.singleton_append, h.enclosed brackets_round]
  rfl

theorem inside_single_arrow (hc : c ≠ '>') (h : Inside cutter false (c :: t)) :
    Inside cutter word ('-' :: '>' :: c :: t) := by
  refine .span (by simp [Groups]) (fun v => ?_) h (s := ['-', '>'])
  rw [List.cons_append, span?, if_neg (by decide), if_neg (by decide), if_neg (by simp),
    List.cons_append, arrow?_single (by simpa using hc)]

theorem inside_arrow (scalar : Bool) (ht : t.head? = some '\'') (h : Inside cutter false t) :
    Inside cutter word (Column.arrow scalar ++ t) := by
  obtain ⟨r, rfl⟩ := List.head?_eq_some_iff.1 ht
  cases scalar with
  | true =>
    change Inside cutter word ('-' :: '>' :: '>' :: '\'' :: r)
    refine .span (by simp [Groups]) (fun v => ?_) h (s := ['-', '>', '>'])
    rw [List.cons_append, span?, if_neg (by decide), if_neg (by decide), if_neg (by simp)]
    rfl
  | false => exact inside_single_arrow (by decide) h

end Cutter

end QueryShorthand
