import QueryShorthand.Proofs.Condition.Items
import QueryShorthand.Proofs.Operand.Writing

/-! The grammar of conditions. Whatever blanks stand around its signs, a writing of a tree is read
as that tree. -/
namespace QueryShorthand

namespace Expr

mutual

/-- A condition as it may be written: two or more terms with `|` between them, or one term. -/
inductive Writes : Expr → Text → Prop where
  | any {items : List Expr} {t : Text} (hl : 2 ≤ items.length) (h : WritesTerms items t) :
      Writes (any items) t
  | term {e : Expr} {t : Text} (h : WritesTerm e t) : Writes e t

inductive WritesTerms : List Expr → Text → Prop where
  | last {e : Expr} {t : Text} (h : WritesTerm e t) : WritesTerms [e] t
  | more {e : Expr} {es : List Expr} {t u : Text} (h : WritesTerm e t) (hs : WritesTerms es u) :
      WritesTerms (e :: es) (t ++ '|' :: u)

inductive WritesTerm : Expr → Text → Prop where
  | all {items : List Expr} {t : Text} (hl : 2 ≤ items.length) (h : WritesClips items t) :
      WritesTerm (all items) t
  | clip {e : Expr} {t : Text} (h : WritesClip e t) : WritesTerm e t

inductive WritesClips : List Expr → Text → Prop where
  | last {e : Expr} {t : Text} (h : WritesClip e t) : WritesClips [e] t
  | more {e : Expr} {es : List Expr} {t u : Text} (h : WritesClip e t) (hs : WritesClips es u) :
      WritesClips (e :: es) (t ++ ',' :: u)

/-- An atom behind any number of negations, with blanks before, between and after them. Two of them
cancel. -/
inductive WritesClip : Expr → Text → Prop where
  | mk {e : Expr} {bangs : Nat} {lead t b : Text} (hl : bangs? lead = some bangs)
      (h : WritesAtom e t) (hb : b.Blank) : WritesClip (negated bangs e) (lead ++ (t ++ b))

/-- An operand, two with an operator and blanks between them, or a condition in parentheses. On the
left stands no auto reference, and a parameter only opposite another one. -/
inductive WritesAtom : Expr → Text → Prop where
  | flag {o : Operand} {t : Text} (h : o.Writes t) : WritesAtom (flag o) t
  | compare {l r : Operand} {op : Operator} {t u b b' : Text} (hl : l.Writes t) (hb : b.Blank)
      (hb' : b'.Blank) (hr : r.Writes u) (hauto : l.isAuto = false)
      (hparam : l.isParameter = true → r.isParameter = true) :
      WritesAtom (compare l op r) (t ++ (b ++ (op.symbol ++ (b' ++ u))))
  | group {e : Expr} {t : Text} (h : Writes e t) : WritesAtom (group e) ('(' :: (t ++ [')']))

end

end Expr

namespace Operator

variable {rest : Text}

theorem usual_cutter : cutter.Usual := by
  constructor
  · rw [Cutter.StartsIn, marks_cutter]
    decide
  · rw [marks_cutter]
    decide

theorem mark?_symbol (op : Operator) (h : ∀ c ∈ ['=', '<', '>'], rest.head? ≠ some c) :
    cutter.mark? (op.symbol ++ rest) = some (op.symbol, rest) := by
  have heq : rest.head? ≠ some '=' := h '=' (by decide)
  have hlt : rest.head? ≠ some '<' := h '<' (by decide)
  have hgt : rest.head? ≠ some '>' := h '>' (by decide)
  have hgroups : cutter.groups = false := rfl
  cases rest with
  | nil => cases op <;> simp [Cutter.mark?, marks_cutter, symbol, firstMark, Text.after?, hgroups]
  | cons c rest =>
    have heq : '=' ≠ c := fun hc => heq (by rw [hc]; rfl)
    have hlt : '<' ≠ c := fun hc => hlt (by rw [hc]; rfl)
    have hgt : '>' ≠ c := fun hc => hgt (by rw [hc]; rfl)
    cases op <;>
      simp [Cutter.mark?, marks_cutter, symbol, firstMark, Text.after?, hgroups, heq, hlt, hgt]

theorem pieces_symbol {word : Bool} (op : Operator)
    (h : ∀ c ∈ ['=', '<', '>'], rest.head? ≠ some c) :
    cutter.pieces word (op.symbol ++ rest) = (cutter.pieces false rest).after
      (.mark op.symbol) := by
  obtain ⟨c, s, hs, hspan⟩ : ∃ c s, op.symbol = c :: s ∧ startsSpan c = false := by
    cases op <;> exact ⟨_, _, rfl, by decide⟩
  have hmark := mark?_symbol op h
  have hgroup : ¬ cutter.Groups word c := fun h => by cases h.1
  rw [hs, List.cons_append] at hmark ⊢
  exact Cutter.pieces_mark hgroup (span?_of_not_startsSpan hspan) hmark

theorem pieces_nil {word : Bool} : cutter.pieces word [] = ⟨[], none⟩ := by
  rw [Cutter.pieces]

theorem parts_last {word : Bool} {t : Text} (h : cutter.Inside word t) :
    (cutter.pieces word t).stop = none ∧ Clip.parts []
    (cutter.pieces word t).pieces = [t.trim] := by
  have hp := h.parts (r := []) []
  rw [List.append_nil, pieces_nil] at hp
  exact hp

theorem split_eq {t : Text} (h : (cutter.pieces false t).stop = none) :
    Clip.split symbols t = .ok (Clip.parts [] (cutter.pieces false t).pieces) := by
  have hstop : ((Cutter.operators symbols).pieces false t).stop = none := h
  simp only [Clip.split, hstop]
  rfl

theorem split_flag {t : Text} (h : Solid t) : Clip.split symbols t = .ok [t] := by
  have hi : cutter.Inside false t := h.inside usual_cutter
  obtain ⟨hstop, hparts⟩ := parts_last hi
  rw [split_eq hstop, hparts, h.trim]

theorem split_compare {t u b b' : Text} (op : Operator) (ht : Solid t) (hb : b.Blank)
    (hb' : b'.Blank) (hu : Solid u) :
    Clip.split symbols (t ++ (b ++ (op.symbol ++ (b' ++ u)))) = .ok [t, op.symbol, u] := by
  have hleft : cutter.Inside false (t ++ b) :=
    (ht.inside usual_cutter).append (inside_blank usual_cutter hb)
  have hright : cutter.Inside false (b' ++ u) :=
    (inside_blank usual_cutter hb').append (hu.inside usual_cutter)
  have hnext : ∀ c ∈ ['=', '<', '>'], (b' ++ u).head? ≠ some c := by
    intro c hc
    have hp : (b' ++ (u ++ [])).head? ≠ some c := hu.head?_padded hb' (List.mem_cons_of_mem _ hc)
    rwa [List.append_nil] at hp
  obtain ⟨hstop, hparts⟩ := parts_last hright
  obtain ⟨hstop', hparts'⟩ := hleft.parts (r := op.symbol ++ (b' ++ u)) []
  rw [pieces_symbol op hnext] at hstop' hparts'
  rw [List.append_assoc] at hstop' hparts'
  have htrim : (t ++ b).trim = t := ht.trim_padded Text.blank_nil hb
  have htrim' : (b' ++ u).trim = u := by
    have hp := hu.trim_padded hb' Text.blank_nil
    rwa [List.append_nil] at hp
  rw [split_eq (hstop'.trans hstop), hparts']
  simp only [Pieces.after, Clip.parts, List.nil_append, htrim, hparts, htrim']

end Operator

namespace Condition

variable {c : Char} {t b b' lead text : Text} {word : Bool} {n : Nat} {e f : Expr}
  {es : List Expr.Item}

theorem usual_cutter : cutter.Usual := by
  constructor
  · rw [Cutter.StartsIn, marks_cutter]
    decide
  · rw [marks_cutter]
    decide

/-- A sign that is no delimiter, and starts neither a span nor a group. -/
def IsSign (c : Char) : Prop := startsSpan c = false ∧ c ∉ [',', '|', ')']

instance (c : Char) : Decidable (IsSign c) := inferInstanceAs (Decidable (_ ∧ _))

theorem inside_signs (h : ∀ c ∈ t, IsSign c) : cutter.Inside word t := by
  induction t generalizing word with
  | nil => exact .nil
  | cons c t ih =>
    obtain ⟨⟨hs, hd⟩, ht⟩ := List.forall_mem_cons.1 h
    simp only [List.mem_cons, List.not_mem_nil, or_false, not_or] at hd
    obtain ⟨hcomma, hbar, hclose⟩ := hd
    have hopen : c ≠ '(' := by
      rintro rfl
      exact absurd hs (by decide)
    refine .plain (by simp [Cutter.Groups, hopen, hclose]) (fun v => span?_of_not_startsSpan hs)
      (fun v => Cutter.mark?_eq_none fun m hm r heq => ?_) (ih ht)
    simp only [marks_cutter, List.mem_cons, List.not_mem_nil, or_false] at hm
    rcases hm with rfl | rfl
    · exact hcomma (List.cons.inj heq).1
    · exact hbar (List.cons.inj heq).1

/-- Of the operators, only one begins with a delimiter, and its `=` keeps that from being one. -/
theorem inside_symbol (op : Operator) : cutter.Inside word op.symbol := by
  by_cases h : op = .membership
  · subst h
    show cutter.Inside word ['|', '=']
    refine .plain (by simp [Cutter.Groups]) (fun v => span?_of_not_startsSpan (by decide))
      (fun v => ?_) (inside_signs (Text.forall_mem_of_all (by decide)))
    have hgroups : cutter.groups = true := rfl
    simp [Cutter.mark?, marks_cutter, firstMark, Text.after?, hgroups]
  · refine inside_signs (Text.forall_mem_of_all ?_)
    revert h
    cases op <;> decide

theorem isSign_of_isNegation (h : Expr.isNegation c = true) : IsSign c := by
  simp only [Expr.isNegation, Bool.or_eq_true, beq_iff_eq] at h
  rcases h with rfl | h
  · decide
  · have hs := not_special_of_isBlank h
    refine ⟨Cutter.startsSpan_of_special hs, fun hc => hs ?_⟩
    exact (Text.forall_mem_of_all (by decide) : ∀ d ∈ [',', '|', ')'], d ∈ specials) c hc

theorem inside_lead (h : ∀ c ∈ lead, Expr.isNegation c = true) : cutter.Inside word lead :=
  inside_signs fun c hc => isSign_of_isNegation (h c hc)

end Condition

namespace Expr

variable {e : Expr} {o l r : Operand} {op : Operator} {t u b b' lead : Text} {n : Nat}

theorem of_bangs? (h : bangs? lead = some n) :
    (∀ c ∈ lead, isNegation c = true) ∧ lead.count '!' = n := by
  unfold bangs? at h
  split at h
  · next hall => exact ⟨List.all_eq_true.1 hall, Option.some.inj h⟩
  · cases h

theorem count_trimStart (lead : Text) : lead.trimStart.count '!' = lead.count '!' := by
  have hblank : (lead.takeWhile isBlank).count '!' = 0 := by
    refine List.count_eq_zero.2 fun hc => ?_
    have hb : isBlank '!' = true := List.all_eq_true.1 List.all_takeWhile _ hc
    revert hb
    decide
  conv_rhs => rw [← List.takeWhile_append_dropWhile (p := isBlank) (l := lead)]
  rw [List.count_append, hblank, Nat.zero_add]
  rfl

theorem count_trim (lead : Text) : lead.trim.count '!' = lead.count '!' := by
  have hreverse : lead.trim = (Text.trimStart lead.trimStart.reverse).reverse := rfl
  rw [hreverse, List.count_reverse, count_trimStart, List.count_reverse, count_trimStart]

theorem bangs?_trim (h : bangs? lead = some n) : bangs? lead.trim = some n := by
  obtain ⟨hneg, rfl⟩ := of_bangs? h
  have hsub : ∀ c ∈ lead.trim, c ∈ lead := by
    intro c hc
    have hstart : c ∈ lead.trimStart := by
      have hend := (List.dropWhile_sublist _).subset (List.mem_reverse.1 hc)
      exact List.mem_reverse.1 hend
    exact (List.dropWhile_sublist _).subset hstart
  rw [bangs?, if_pos (List.all_eq_true.2 fun c hc => hneg c (hsub c hc)), count_trim]

structure Body (e : Expr) (t : Text) : Prop where
  head : ∃ c r, t = c :: r ∧ isNegation c = false
  last : ∃ c, t.getLast? = some c ∧ isBlank c = false
  inside : ∀ {word : Bool}, Condition.cutter.Inside word t
  read : ∀ clip, ofBody clip t = .ok e

theorem isNegation_of_solid {c : Char} (hb : isBlank c = false) (hc : c ∉ ['!', '=', '<', '>']) :
    isNegation c = false := by
  have hbang : c ≠ '!' := fun h => hc (by simp [h])
  simp [isNegation, hb, hbang]

theorem body_flag (h : o.Writes t) : Body (flag o) t := by
  obtain ⟨hs, hr, -⟩ := h.legible
  obtain ⟨c, r, hcr, hb, hc⟩ := hs.head
  refine ⟨⟨c, r, hcr, isNegation_of_solid hb hc⟩, hs.last, hs.inside Condition.usual_cutter,
    fun clip => ?_⟩
  rw [ofBody, Operator.split_flag hs]
  show (do return flag (← Operand.read t)) = _
  rw [hr]
  rfl

theorem comparison_eq {clip : Text} (hauto : l.isAuto = false)
    (hparam : l.isParameter = true → r.isParameter = true) :
    comparison clip l op r = .ok (compare l op r) := by
  have hswap : (l.isParameter && !r.isParameter) = false := by
    cases hl : l.isParameter with
    | false => rfl
    | true => rw [hparam hl]; rfl
  simp [comparison, hauto, hswap]

theorem body_compare (hl : l.Writes t) (hb : b.Blank) (hb' : b'.Blank) (hr : r.Writes u)
    (hauto : l.isAuto = false) (hparam : l.isParameter = true → r.isParameter = true) :
    Body (compare l op r) (t ++ (b ++ (op.symbol ++ (b' ++ u)))) := by
  obtain ⟨hst, hreadl, -⟩ := hl.legible
  obtain ⟨hsu, hreadr, -⟩ := hr.legible
  refine ⟨?_, ?_, ?_, fun clip => ?_⟩
  · obtain ⟨c, s, rfl, hblank, hc⟩ := hst.head
    exact ⟨c, _, rfl, isNegation_of_solid hblank hc⟩
  · obtain ⟨c, hc, hblank⟩ := hsu.last
    exact ⟨c, by simp [List.getLast?_append, hc], hblank⟩
  · intro word
    have husual := Condition.usual_cutter
    exact (hst.inside husual).append ((inside_blank husual hb).append
      ((Condition.inside_symbol op).append ((inside_blank husual hb').append (hsu.inside husual))))
  · rw [ofBody, Operator.split_compare op hst hb hb' hsu]
    simp only [bind, Except.bind, Operator.ofSymbol?_symbol, hreadl, hreadr]
    exact comparison_eq hauto hparam

theorem Body.ne_nil (h : Body e t) : t ≠ [] := by
  obtain ⟨c, r, rfl, -⟩ := h.head
  simp

theorem Body.trim_clip (h : Body e t) (lead : Text) (hb : b.Blank) :
    (lead ++ (t ++ b)).trim = lead.trimStart ++ t := by
  obtain ⟨c, r, hcr, hc⟩ := h.head
  obtain ⟨d, hd, hblank⟩ := h.last
  have hcb : isBlank c = false := by
    rw [isNegation, Bool.or_eq_false_iff] at hc
    exact hc.2
  have hstart : (lead ++ (t ++ b)).trimStart = lead.trimStart ++ t ++ b := by
    have htb : (t ++ b).dropWhile isBlank = t ++ b := by
      rw [hcr, List.cons_append, List.dropWhile_cons_of_neg (by simp [hcb])]
    rw [Text.trimStart, Text.trimStart, List.dropWhile_append]
    split
    · next hnil => rw [List.isEmpty_iff.1 hnil, htb, List.nil_append]
    · rw [List.append_assoc]
  rw [Text.trim, hstart, hb.trimEnd_append]
  exact Text.trimEnd_of_last (by simp [List.getLast?_append, hd]) hblank

theorem Body.ofLeaf (h : Body e t) (hl : ∀ c ∈ lead, isNegation c = true) :
    ofLeaf (lead ++ t) = .ok (negated (lead.count '!') e) := by
  obtain ⟨c, r, hcr, hc⟩ := h.head
  have htake : (lead ++ t).takeWhile isNegation = lead := by
    rw [List.takeWhile_append_of_pos hl, hcr, List.takeWhile_cons_of_neg (by simp [hc]),
      List.append_nil]
  have hdrop : (lead ++ t).dropWhile isNegation = t := by
    rw [List.dropWhile_append_of_pos hl, hcr, List.dropWhile_cons_of_neg (by simp [hc])]
  rw [Expr.ofLeaf, htake, hdrop, h.read]
  rfl

theorem Body.items (h : Body e t) (hl : bangs? lead = some n) (hb : b.Blank) :
    Condition.Items (lead ++ (t ++ b)) (negated n e) [] := by
  obtain ⟨hneg, hcount⟩ := of_bangs? hl
  have htrim := h.trim_clip lead hb
  have hinside : Condition.cutter.Inside false (lead ++ (t ++ b)) :=
    (Condition.inside_lead hneg).append (h.inside.append (inside_blank Condition.usual_cutter hb))
  have hscan := hinside.leaf (by simp [htrim, h.ne_nil])
  rw [htrim] at hscan
  refine ⟨_, hscan, fun before => .last ?_⟩
  have hstart : ∀ c ∈ lead.trimStart, isNegation c = true :=
    fun c hc => hneg c ((List.dropWhile_sublist _).subset hc)
  rw [h.ofLeaf hstart, count_trimStart, hcount]
  rfl

theorem wordAfter_lead (h : ∀ c ∈ lead, isNegation c = true) : wordAfter false lead = false := by
  by_cases hne : lead = []
  · rw [hne]
    rfl
  · have hlast := h _ (List.getLast_mem hne)
    rw [Cutter.wordAfter_of_ne_nil hne, lastEndsWord, List.getLast?_eq_some_getLast hne]
    simp only [isNegation, Bool.or_eq_true, beq_iff_eq] at hlast
    rcases hlast with hbang | hblank
    · simp only [Option.any_some, hbang]
      decide
    · exact not_endsWord_of_isBlank hblank

theorem items_of_group {es : List Item} (h : Condition.Items t e es) (hl : bangs? lead = some n)
    (hb : b.Blank) : Condition.Items (lead ++ ('(' :: (t ++ [')']) ++ b))
      (negated n (group (Condition.ofItems e es))) [] := by
  obtain ⟨tokens, ht, he⟩ := h
  obtain ⟨hneg, -⟩ := of_bangs? hl
  have htail (level : Level) : Condition.cutter.Scans [level] false b (level.add b).complete :=
    (inside_blank Condition.usual_cutter hb).ends level
  have hgroup : Condition.cutter.Scans [{ text := lead }] false ('(' :: (t ++ ')' :: b))
      [.group lead.trim tokens b.trim] := ht.group Condition.single rfl htail
  rw [hb.trim] at hgroup
  refine Condition.items_group (bangs?_trim hl) ?_ he
  refine (Condition.inside_lead hneg).scans ?_
  rw [wordAfter_lead hneg]
  simpa [Level.add] using hgroup

def conjoined (es : List Expr) : List Item := es.map fun e => (some [','], e)

theorem alternatives_conjoined (b : Option Text) (e : Expr) (es : List Expr) :
    alternatives ((b, e) :: conjoined es) = [e :: es] := by
  induction es generalizing b e with
  | nil => rfl
  | cons f es ih => exact alternatives_and (by simp) (ih (some [',']) f)

theorem alternatives_further (b : Option Text) (e f : Expr) (es : List Expr) (fs : List Item) :
    alternatives ((b, e) :: (conjoined es ++ (some ['|'], f) :: fs)) =
      (e :: es) :: alternatives ((some ['|'], f) :: fs) := by
  induction es generalizing b e with
  | nil => exact alternatives_or
  | cons g es ih => exact alternatives_and (by simp) (ih (some [',']) g)

mutual

theorem Writes.items : ∀ {e : Expr} {t : Text}, Writes e t →
    ∃ f es, Condition.Items t f es ∧ e = Condition.ofItems f es
  | _, _, .any hl h => by
    obtain ⟨f, es, hi, hts⟩ := h.items
    refine ⟨f, es, hi, ?_⟩
    rw [Condition.ofItems, hts none, collapsed]
    rintro e rfl
    simp at hl
  | _, _, .term h => by
    obtain ⟨f, fs, hi, rfl⟩ := h.items
    refine ⟨f, conjoined fs, hi, ?_⟩
    rw [Condition.ofItems, alternatives_conjoined]
    rfl

theorem WritesTerms.items : ∀ {ts : List Expr} {t : Text}, WritesTerms ts t →
    ∃ f es, Condition.Items t f es ∧ ∀ b, (alternatives ((b, f) :: es)).map (collapsed all) = ts
  | _, _, .last h => by
    obtain ⟨f, fs, hi, rfl⟩ := h.items
    exact ⟨f, conjoined fs, hi, fun b => by rw [alternatives_conjoined]; rfl⟩
  | _, _, .more h hs => by
    obtain ⟨f, fs, hi, rfl⟩ := h.items
    obtain ⟨g, gs, hj, hts⟩ := hs.items
    refine ⟨f, _, hi.joined hj (.inr rfl) hj.head?_ne, fun b => ?_⟩
    rw [alternatives_further, List.map_cons, hts]

theorem WritesTerm.items : ∀ {e : Expr} {t : Text}, WritesTerm e t →
    ∃ f fs, Condition.Items t f (conjoined fs) ∧ e = collapsed all (f :: fs)
  | _, _, .all hl h => by
    obtain ⟨f, fs, rfl, hi⟩ := h.items
    refine ⟨f, fs, hi, ?_⟩
    rw [collapsed]
    rintro e he
    simp [he] at hl
  | _, _, .clip h => ⟨_, [], h.items, rfl⟩

theorem WritesClips.items : ∀ {es : List Expr} {t : Text}, WritesClips es t →
    ∃ f fs, es = f :: fs ∧ Condition.Items t f (conjoined fs)
  | _, _, .last h => ⟨_, [], rfl, h.items⟩
  | _, _, .more h hs => by
    obtain ⟨f, fs, rfl, hi⟩ := hs.items
    refine ⟨_, f :: fs, rfl, ?_⟩
    exact h.items.joined hi (.inl rfl) hi.head?_ne

theorem WritesClip.items : ∀ {e : Expr} {t : Text}, WritesClip e t → Condition.Items t e []
  | _, _, .mk hl h hb => h.items hl hb

theorem WritesAtom.items : ∀ {e : Expr} {t lead b : Text} {n : Nat}, WritesAtom e t →
    bangs? lead = some n → b.Blank → Condition.Items (lead ++ (t ++ b)) (negated n e) []
  | _, _, _, _, _, .flag h, hl, hb => (body_flag h).items hl hb
  | _, _, _, _, _, .compare h hc hc' hr hauto hparam, hl, hb =>
    (body_compare h hc hc' hr hauto hparam).items hl hb
  | _, _, _, _, _, .group h, hl, hb => by
    obtain ⟨f, es, hi, rfl⟩ := h.items
    exact items_of_group hi hl hb

end

end Expr

namespace Condition

/-- Reading undoes writing, whatever blanks and pairs of negations were added. -/
theorem read_of_writes {e : Expr} {t : Text} (h : e.Writes t) : read t = .ok ⟨t, some e⟩ := by
  obtain ⟨f, es, hi, rfl⟩ := h.items
  exact hi.read

theorem read_of_writes_nested : ∃ e : Expr, ∃ t : Text,
    t = "!! (`a,b`|=[7]|c),!d->'$.k' >= F( ?,'x' )".toList ∧ e.Writes t ∧
      read t = .ok ⟨t, some e⟩ := by
  have nothing : Text.Blank [] := Text.blank_nil
  have space : Text.Blank [' '] := by
    exact Text.forall_mem_of_all (by decide)
  have word (c : Char) (hc : Name.isStart c = true) (hs : [c] ≠ ['*']) :
      Column.Writes { name := [c] } [c] := .plain (.bare ⟨c, [], rfl, hc, by simp⟩) hs
  have seven : Json.Fits 127 (.array [.number (.natural 7)]) := by simp [Json.Fits, Json.FitsAll]
  have member :
      Expr.WritesAtom (.compare (.column { name := "a,b".toList }) .membership (.array [.int 7]))
      ("`a,b`".toList ++ ([] ++ ("|=".toList ++ ([] ++ "[7]".toList)))) :=
    .compare (.column (.plain (.quoted (by decide)) (by decide)) (by decide)) nothing nothing
      (.array seven) rfl (by decide)
  have flag : Expr.WritesAtom (.flag (.column { name := "c".toList })) "c".toList :=
    .flag (.column (word 'c' (by decide) (by decide)) (by decide))
  have clip {e : Expr} {t : Text} (lead b : Text) (n : Nat) (hl : Expr.bangs? lead = some n)
      (h : e.WritesAtom t) (hb : b.Blank) : (Expr.negated n e).WritesClip (lead ++ (t ++ b)) :=
    .mk hl h hb
  have group : Expr.WritesAtom (.group (.any [_, _])) _ :=
    .group (.any (by decide) (.more (.clip (clip [] [] 0 rfl member nothing))
      (.last (.clip (clip [] [] 0 rfl flag nothing)))))
  have call :
      Expr.WritesAtom (.compare (.column ⟨none, ['d'], some ⟨"$.k".toList, false⟩⟩) .greaterOrEqual
      (.call ['F'] [.auto, .literal ['x']]))
      (['d'] ++ (Column.arrow false ++ Text.quoted '\'' "$.k".toList) ++
        ([' '] ++ (">=".toList ++ ([' '] ++ (['F'] ++ '(' ::
          ([' '] ++ (['?'] ++ []) ++ ',' :: ([] ++ (Text.quoted '\'' ['x'] ++ [' '])) ++
            [')'])))))) :=
    .compare (.column (.path (word 'd' (by decide) (by decide)) rfl) (by decide)) space space
      (.call (by decide) (.more space .auto nothing (by simp) (.last nothing .text space)))
        rfl (by decide)
  have whole := Expr.Writes.term (.all (by decide) (.more (clip "!! ".toList [] 2 rfl group nothing)
    (.last (clip ['!'] [] 1 rfl call nothing))))
  exact ⟨_, _, rfl, whole, read_of_writes whole⟩

end Condition

end QueryShorthand
