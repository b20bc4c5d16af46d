import QueryShorthand.Condition.Reader
import QueryShorthand.Proofs.Token.Scan
import QueryShorthand.Proofs.Token.Slots

/-! The items of a condition as a function of its text: texts joined by a combinator have the items
of both, and a text in parentheses has one. -/
namespace QueryShorthand

namespace Expr

variable {b s : Option Text} {e f : Expr} {es : List Item} {t : List Expr} {ts : List (List Expr)}

theorem alternatives_singleton : alternatives [(b, e)] = [[e]] := rfl

theorem alternatives_or : alternatives ((b, e) :: (some ['|'], f) :: es) =
    [e] :: alternatives ((some ['|'], f) :: es) := by
  rw [alternatives]

theorem alternatives_and (hs : s ≠ some ['|']) (h : alternatives ((s, f) :: es) = t :: ts) :
    alternatives ((b, e) :: (s, f) :: es) = (e :: t) :: ts := by
  conv_lhs => unfold alternatives
  rw [h]
  split <;> simp_all

/-- The first alternative begins with the first item, whatever stands in front of that. -/
theorem exists_alternatives (e : Expr) (es : List Item) :
    ∃ t ts, ∀ b, alternatives ((b, e) :: es) = (e :: t) :: ts := by
  induction es generalizing e with
  | nil => exact ⟨[], [], fun b => rfl⟩
  | cons x es ih =>
    obtain ⟨s, f⟩ := x
    by_cases hs : s = some ['|']
    · subst hs
      exact ⟨[], _, fun b => alternatives_or⟩
    · obtain ⟨t, ts, h⟩ := ih f
      exact ⟨_, _, fun b => alternatives_and hs (h s)⟩

end Expr

namespace Operator

def cutter : Cutter := .operators symbols

theorem marks_cutter :
    cutter.marks = ["!=", "|=", "*=", "^=", "$=", "#=", "@=", ":=", "~=", "&=", "><",
    "<>", ">=", "<=", "=", ">", "<"].map String.toList := by decide

end Operator

namespace Condition

def cutter : Cutter := .delimiters delimiters

variable {s t : Text} {c : Char} {e f : Expr} {es fs : List Expr.Item}

/-- The text is read as `e` and the further items `es`; the first item may stand behind any
combinator. -/
def Items (s : Text) (e : Expr) (es : List Expr.Item) : Prop :=
  ∃ tokens, cutter.Scans [{}] false s tokens ∧
    ∀ before, Slot.Alternates before (Expr.slots tokens) ((before, e) :: es)

def ofItems (e : Expr) (es : List Expr.Item) : Expr :=
  Expr.collapsed .any ((Expr.alternatives ((none, e) :: es)).map (Expr.collapsed .all))

theorem marks_cutter : cutter.marks = [[','], ['|']] := by decide

theorem single : cutter.Single := by
  intro m hm
  simp only [marks_cutter, List.mem_cons, List.not_mem_nil, or_false] at hm
  rcases hm with rfl | rfl <;> rfl

theorem mark?_cutter (hc : c = ',' ∨ c = '|') (h : t.head? ≠ some '=') :
    cutter.mark? (c :: t) = some ([c], t) := by
  have hf : (!cutter.groups || t.head? != some '=') = true := by simpa using .inr h
  rcases hc with rfl | rfl <;> simp [Cutter.mark?, marks_cutter, firstMark, Text.after?, hf]

theorem exists_alternates {tokens : List Token} {items : List Expr.Item}
    (h : Slot.Alternates none (Expr.slots tokens) items) :
    ∃ e es, items = (none, e) :: es ∧
      ∀ before, Slot.Alternates before (Expr.slots tokens) ((before, e) :: es) := by
  have reads {x : Token} {read : Option Text → Except Error Expr.Item} {item : Expr.Item}
      (hx : Expr.slot x = .item read) (hr : read none = .ok item) :
      ∃ e, item = (none, e) ∧ ∀ before, read before = .ok (before, e) := by
    cases x with
    | combinator s => cases hx
    | leaf t =>
      cases hx
      obtain ⟨e, he, rfl⟩ := exists_of_map_eq_ok hr
      exact ⟨e, rfl, fun before => by rw [he]; rfl⟩
    | group lead ts tail =>
      cases hx
      obtain ⟨e, he, rfl⟩ := exists_of_map_eq_ok hr
      exact ⟨e, rfl, fun before => by rw [he]; rfl⟩
  cases tokens with
  | nil => cases h
  | cons x xs =>
    rw [Expr.slots] at h ⊢
    generalize hx : Expr.slot x = slot at h ⊢
    generalize Expr.slots xs = slots at h ⊢
    cases h with
    | last hr =>
      obtain ⟨e, rfl, he⟩ := reads hx hr
      exact ⟨e, [], rfl, fun before => .last (he before)⟩
    | more hr hrest =>
      obtain ⟨e, rfl, he⟩ := reads hx hr
      exact ⟨e, _, rfl, fun before => .more (he before) hrest⟩

theorem slots_append (xs ys : List Token) :
    Expr.slots (xs ++ ys) = Expr.slots xs ++ Expr.slots ys := by
  induction xs with
  | nil => rfl
  | cons x xs ih => rw [List.cons_append, Expr.slots, Expr.slots, ih, List.cons_append]

theorem Items.joined (hs : Items s e es) (ht : Items t f fs) (hc : c = ',' ∨ c = '|')
    (h : t.head? ≠ some '=') : Items (s ++ c :: t) e (es ++ (some [c], f) :: fs) := by
  obtain ⟨xs, hxs, hes⟩ := hs
  obtain ⟨ys, hys, hfs⟩ := ht
  have hspan (w : Bool) : span? w c t = .ok none :=
    span?_of_not_startsSpan (by rcases hc with rfl | rfl <;> decide)
  have hgroup (w : Bool) : ¬ cutter.Groups w c := by
    rcases hc with rfl | rfl <;> simp [Cutter.Groups]
  have hne : c ≠ '=' ∧ c ≠ '>' := by rcases hc with rfl | rfl <;> decide
  refine ⟨xs ++ .combinator [c] :: ys, hxs.joined single hspan (mark?_cutter hc h) hgroup hne hys,
    ?_⟩
  intro before
  rw [slots_append]
  exact (hes before).append (hfs (some [c]))

theorem ofSlots_eq_ok_iff {tokens : List Token} : Expr.ofSlots (Expr.slots tokens) = .ok (some e) ↔
    ∃ f es, (∀ before, Slot.Alternates before (Expr.slots tokens) ((before, f) :: es)) ∧
      e = ofItems f es := by
  constructor
  · intro h
    obtain ⟨items, hitems, h⟩ := exists_of_bind_eq_ok h
    rcases Slot.items_eq_ok_iff.1 hitems with ⟨-, rfl⟩ | ha
    · cases h
    · obtain ⟨f, es, rfl, hf⟩ := exists_alternates ha
      cases h
      exact ⟨f, es, hf, rfl⟩
  · rintro ⟨f, es, hf, rfl⟩
    rw [Expr.ofSlots, Slot.items_eq_ok_iff.2 (.inr (hf none))]
    rfl

theorem exists_items_of_read {condition : Condition} (h : read s = .ok condition)
    (he : condition.expr = some e) : ∃ f es, Items s f es ∧ e = ofItems f es := by
  obtain ⟨tokens, ht, h⟩ := exists_of_bind_eq_ok h
  obtain ⟨expr, hs, h⟩ := exists_of_bind_eq_ok h
  cases h
  obtain rfl : expr = some e := he
  obtain ⟨f, es, hf, rfl⟩ := ofSlots_eq_ok_iff.1 hs
  exact ⟨f, es, ⟨tokens, Cutter.read_eq_ok_iff.1 ht, hf⟩, rfl⟩

theorem Items.read (h : Items s e es) : Condition.read s = .ok ⟨s, some (ofItems e es)⟩ := by
  obtain ⟨tokens, ht, he⟩ := h
  rw [Condition.read, Cutter.read_eq_ok_iff.2 ht]
  have hs : Expr.ofSlots (Expr.slots tokens) = .ok (some (ofItems e es)) :=
    ofSlots_eq_ok_iff.2 ⟨e, es, he, rfl⟩
  simp only [bind, Except.bind, hs]
  rfl

theorem items_group {tokens : List Token} {lead text : Text} {n : Nat}
    (hl : Expr.bangs? lead = some n) (h : cutter.Scans [{}] false text [.group lead tokens []])
    (hs : ∀ before, Slot.Alternates before (Expr.slots tokens) ((before, e) :: es)) :
    Items text (Expr.negated n (.group (ofItems e es))) [] := by
  refine ⟨_, h, fun before => .last ?_⟩
  have hof : Expr.ofSlots (Expr.slots tokens) = .ok (some (ofItems e es)) :=
    ofSlots_eq_ok_iff.2 ⟨e, es, hs, rfl⟩
  simp only [Expr.ofGroup, hl, hof]
  rfl

theorem Items.group (h : Items s e es) :
    Items ('(' :: (s ++ [')'])) (.group (ofItems e es)) [] := by
  obtain ⟨tokens, ht, he⟩ := h
  exact items_group rfl (ht.group single rfl .nothing) he

theorem Items.negatedGroup (h : Items s e es) :
    Items ('!' :: '(' :: (s ++ [')'])) (.not (.group (ofItems e es))) [] := by
  obtain ⟨tokens, ht, he⟩ := h
  have hl : Expr.bangs? ['!'] = some 1 := rfl
  refine items_group hl ?_ he
  refine .plain (by simp [Cutter.Groups]) (span?_of_not_startsSpan (by decide)) ?_ ?_
  · simp [Cutter.mark?, marks_cutter, firstMark, Text.after?]
  · exact ht.group single rfl .nothing

theorem mark?_equals (r : Text) : Operator.cutter.mark? ('=' :: r) = some (['='], r) := by
  simp only [Cutter.mark?, Operator.marks_cutter]
  rfl

theorem ofLeaf_equals (r : Text) : Expr.ofLeaf ('=' :: r) ≠ .ok e := by
  intro he
  obtain ⟨body, hb, -⟩ := exists_of_map_eq_ok he
  have hbody : ('=' :: r).dropWhile Expr.isNegation = '=' :: r := by
    rw [List.dropWhile_cons_of_neg (by decide)]
  rw [hbody] at hb
  obtain ⟨parts, hp, hb⟩ := exists_of_bind_eq_ok hb
  have hcut : (Cutter.operators Operator.symbols).pieces false ('=' :: r) =
      (Operator.cutter.pieces false r).after (.mark ['=']) :=
    Cutter.pieces_mark (by simp [Cutter.Groups]) (span?_of_not_startsSpan (by decide))
      (mark?_equals r)
  rw [Clip.split, hcut] at hp
  generalize Operator.cutter.pieces false r = cut at hp
  obtain ⟨pieces, stop⟩ := cut
  cases stop with
  | some s => cases hp
  | none =>
    obtain rfl : [] :: ['='] :: Clip.parts [] pieces = parts := by cases hp; rfl
    have hleft : Operand.read [] = .error (.operand []) := by
      rw [Operand.read]
      rfl
    generalize Clip.parts [] pieces = rest at hb
    rcases rest with _ | ⟨right, _ | ⟨symbol, rest⟩⟩
    · cases hb
    · obtain ⟨l, hl, -⟩ := exists_of_bind_eq_ok hb
      rw [hleft] at hl
      cases hl
    · cases hb

theorem Items.head?_ne (h : Items s e es) : s.head? ≠ some '=' := by
  intro hs
  obtain ⟨r, rfl⟩ := List.head?_eq_some_iff.1 hs
  obtain ⟨tokens, ht, he⟩ := h
  have first : ∃ x xs, tokens = x :: xs ∧ x.Begins '=' := by
    cases ht with
    | span _ h _ => simp [span?_of_not_startsSpan (by decide : startsSpan '=' = false)] at h
    | mark _ _ h _ => simp [Cutter.mark?, marks_cutter, firstMark, Text.after?] at h
    | plain _ _ _ h => exact h.begins (by decide)
  obtain ⟨x, xs, rfl, hx⟩ := first
  obtain ⟨read, hread, he⟩ : ∃ read : Option Text → Except Error Expr.Item,
      Expr.slot x = .item read ∧ read none = .ok (none, e) := by
    have he := he none
    rw [Expr.slots] at he
    generalize Expr.slot x = slot at he ⊢
    generalize Expr.slots xs = slots at he
    cases he with
    | last hr => exact ⟨_, rfl, hr⟩
    | more hr _ => exact ⟨_, rfl, hr⟩
  cases x with
  | combinator s => cases hread
  | leaf t =>
    obtain ⟨r, rfl⟩ := List.head?_eq_some_iff.1 hx
    cases hread
    obtain ⟨f, hf, -⟩ := exists_of_map_eq_ok he
    exact ofLeaf_equals r hf
  | group lead ts tail =>
    obtain ⟨r, rfl⟩ := List.head?_eq_some_iff.1 hx
    cases hread
    obtain ⟨f, hf, -⟩ := exists_of_map_eq_ok he
    have hnot : Expr.isNegation '=' = false := by decide
    have hlead : Expr.bangs? ('=' :: r) = none := if_neg (by simp [hnot])
    simp [Expr.ofGroup, hlead] at hf

end Condition

end QueryShorthand
