import QueryShorthand.Proofs.Condition.Precedence
import QueryShorthand.Proofs.Token.Alternation

/-! The clips of a condition beside the tokens of its text, level by level. -/
namespace QueryShorthand

namespace Expr

variable {tokens level : List Token} {e : Expr} {items : List Item}

def ofToken : Token → Except Error Expr
  | .leaf t => ofLeaf t
  | .combinator s => .error (.combinator s)
  | .group lead tokens tail =>
    ofGroup (Token.group lead tokens tail).written lead tail (slots tokens)

theorem slots_eq_map (tokens : List Token) : slots tokens =
    tokens.map (Token.slotOf fun t before => (ofToken t).map fun e => (before, e)) := by
  induction tokens with
  | nil => rfl
  | cons t tokens ih =>
    rw [slots, ih, List.map_cons]
    cases t <;> rw [slot] <;> rfl

mutual

/-- The tokens alternate, and the clips of `e` are those of their items in order. -/
inductive Mirrors : List Token → Expr → Prop where
  | mk {tokens : List Token} {e : Expr} (ha : Token.Alternates tokens)
      (h : List.Forall₂ MirrorsItem (Token.inPlace tokens) (e.terms.flatMap clips)) :
      Mirrors tokens e

/-- The item is read as the clip; a group as what is in its parentheses, negated or not. -/
inductive MirrorsItem : Option Text × Token → Expr → Prop where
  | leaf {before : Option Text} {t : Text} {e : Expr} (h : ofLeaf t = .ok e) :
      MirrorsItem (before, .leaf t) e
  | group {before : Option Text} {lead : Text} {tokens : List Token} {bangs : Nat} {e : Expr}
      (hb : bangs? lead = some bangs) (h : Mirrors tokens e) :
      MirrorsItem (before, .group lead tokens []) (negated bangs (group e))

end

theorem flatten_alternatives (items : List Item) :
    (alternatives items).flatten = items.map Prod.snd := by
  fun_induction alternatives items with
  | case1 => rfl
  | case2 => simp_all
  | case3 => simp_all
  | case4 => simp_all

theorem clips_collapsed {es : List Expr} (h : ∀ e ∈ es, e.isClip = true) :
    (collapsed all es).clips = es := by
  match es with
  | [] => rfl
  | [e] => exact clips_of_isClip (h e List.mem_cons_self)
  | e :: e' :: es => rfl

theorem terms_collapsed {ts : List Expr} (h : ∀ t ∈ ts, t.isTerm = true) :
    (collapsed any ts).terms = ts := by
  match ts with
  | [] => rfl
  | [t] => exact terms_of_isTerm (h t List.mem_cons_self)
  | t :: t' :: ts => rfl

theorem isTerm_collapsed {es : List Expr} (h : ∀ e ∈ es, e.isClip = true) :
    (collapsed all es).isTerm = true := by
  match es with
  | [] => rfl
  | [e] => exact isTerm_of_isClip (h e List.mem_cons_self)
  | e :: e' :: es => rfl

theorem flatMap_clips (h : ∀ x ∈ items, x.2.isClip = true) :
    (collapsed any ((alternatives items).map (collapsed all))).terms.flatMap clips =
      items.map Prod.snd := by
  have hclip : ∀ g ∈ alternatives items, ∀ e ∈ g, e.isClip = true := by
    intro g hg e he
    obtain ⟨b, hb⟩ := mem_of_mem_alternatives hg he
    exact h _ hb
  have hterm : ∀ t ∈ (alternatives items).map (collapsed all), t.isTerm = true := by
    intro t ht
    obtain ⟨g, hg, rfl⟩ := List.mem_map.1 ht
    exact isTerm_collapsed (hclip g hg)
  rw [terms_collapsed hterm, ← flatten_alternatives, List.flatMap_map]
  exact congrArg List.flatten
    ((List.map_congr_left fun g hg => clips_collapsed (hclip g hg)).trans (List.map_id _))

theorem isClip_negated {bangs : Nat} (h : e.isClip = true) : (negated bangs e).isClip = true := by
  unfold negated
  split
  · rfl
  · exact h

theorem group_cases {written lead tail : Text} {inner : List (Slot (Except Error Item))}
    (h : ofGroup written lead tail inner = .ok e) :
    ∃ bangs e', bangs? lead = some bangs ∧ tail = [] ∧ ofSlots inner = .ok (some e') ∧
      e = negated bangs (group e') := by
  unfold ofGroup at h
  split at h
  · cases h
  · next bangs hb =>
    split at h
    · cases h
    · next ht =>
      split at h
      · cases h
      · cases h
      · next e' he =>
        cases h
        exact ⟨bangs, e', hb, not_not.1 ht, he, rfl⟩

theorem isClip_of_ofToken {t : Token} (h : ofToken t = .ok e) : e.isClip = true := by
  cases t with
  | combinator s => cases h
  | leaf t =>
    have hf : e.isClip = true ∧ e.Formed (fun _ => True) (fun _ _ => True) :=
      formed_of_ofLeaf (fun _ _ _ => trivial) (fun _ _ _ _ _ _ _ _ _ _ _ _ => trivial) h
    exact hf.1
  | group lead tokens tail =>
    obtain ⟨bangs, inner, -, -, -, rfl⟩ := group_cases h
    exact isClip_negated rfl

theorem mirrors_of_ofSlots
    (hitem : ∀ t ∈ tokens, ∀ before e, ofToken t = .ok e → MirrorsItem (before, t) e)
    (h : ofSlots (slots tokens) = .ok (some e)) : Mirrors tokens e := by
  obtain ⟨items, hi, he⟩ := exists_of_bind_eq_ok h
  rw [slots_eq_map] at hi
  obtain ⟨ha, hread⟩ := Token.alternates_of_items hi
  split at he
  · cases he
  next hne =>
  cases he
  have halternates : Token.Alternates tokens := by
    refine ha.resolve_left ?_
    rintro rfl
    cases hi
    exact hne rfl
  -- Each pair of an item and its combinator is read as one clip.
  have hclips :
      List.Forall₂ (fun p x => MirrorsItem p x.2 ∧ x.2.isClip = true) (Token.inPlace tokens)
      items := by
    refine ((List.forall₂_and_left _ _).2
      ⟨fun p hp => hitem p.2 (Token.mem_of_mem_inPlace hp), hread⟩).imp ?_
    rintro p x ⟨hp, hx⟩
    obtain ⟨e, he, rfl⟩ := exists_of_map_eq_ok hx
    exact ⟨hp p.1 e he, isClip_of_ofToken he⟩
  have hclip : ∀ x ∈ items, x.2.isClip = true := by
    intro x hx
    obtain ⟨p, -, hp⟩ := exists_of_forall₂ hclips.flip x hx
    exact hp.2
  refine .mk halternates ?_
  rw [flatMap_clips hclip, List.forall₂_map_right_iff]
  exact hclips.imp fun p x h => h.1

mutual

theorem mirrorsItem_of_ofToken :
    ∀ (t : Token) {before : Option Text} {e : Expr}, ofToken t = .ok e →
    MirrorsItem (before, t) e
  | .combinator s, _, _, h => by cases h
  | .leaf t, _, _, h => .leaf h
  | .group lead tokens tail, _, _, h => by
    obtain ⟨bangs, inner, hb, rfl, hi, rfl⟩ := group_cases h
    exact .group hb (mirrors_of_ofSlots (mirrorsItem_of_mem tokens) hi)

theorem mirrorsItem_of_mem :
    ∀ (tokens : List Token), ∀ t ∈ tokens, ∀ (before : Option Text) (e : Expr),
    ofToken t = .ok e → MirrorsItem (before, t) e
  | [] => by simp
  | t :: tokens => List.forall_mem_cons.2
    ⟨fun _ _ h => mirrorsItem_of_ofToken t h, mirrorsItem_of_mem tokens⟩

end

theorem Mirrors.alternates (h : Mirrors tokens e) (hl : Token.Within tokens level) :
    Token.Alternates level := by
  induction hl generalizing e with
  | whole tokens =>
    obtain ⟨ha, -⟩ := h
    exact ha
  | inside hm _ ih =>
    obtain ⟨ha, hitems⟩ := h
    obtain ⟨before, hb⟩ := ha.exists_mem_inPlace rfl hm
    obtain ⟨e', -, he⟩ := exists_of_forall₂ hitems _ hb
    cases he with
    | group _ hinner => exact ih hinner

theorem eq_nil_of_ofSlots (h : ofSlots (slots tokens) = .ok none) : tokens = [] := by
  obtain ⟨items, hi, he⟩ := exists_of_bind_eq_ok h
  rcases Slot.items_eq_ok_iff.1 hi with ⟨hs, -⟩ | ha
  · cases tokens with
    | nil => rfl
    | cons t rest => cases hs
  · rw [if_neg (by simpa using ha.ne_nil.2)] at he
    cases he

/-- An item is accepted, and so are all within it, whatever their combinators. -/
inductive Accepted : Token → Prop where
  | combinator (s : Text) : Accepted (.combinator s)
  | leaf {t : Text} {e : Expr} (h : ofLeaf t = .ok e) : Accepted (.leaf t)
  | group {lead : Text} {tokens : List Token} {bangs : Nat} (hb : bangs? lead = some bangs)
      (hne : tokens ≠ []) (h : ∀ t ∈ tokens, Accepted t) : Accepted (.group lead tokens [])

theorem onlyCombinators_ofSlots (h : ∀ t ∈ tokens, Token.OnlyCombinators (ofToken t)) :
    Token.OnlyCombinators (ofSlots (slots tokens)) := by
  intro e he
  rcases error_or_exists_of_bind_eq_error he with he | ⟨items, -, he⟩
  · rw [slots_eq_map] at he
    refine Token.onlyCombinators_items (Token.onlyCombinators_readEach fun p hp e he => ?_) e he
    exact h p.2 (Token.mem_of_mem_inPlace hp) e (eq_error_of_map_eq_error he)
  · split at he <;> cases he

theorem Accepted.onlyCombinators {t : Token} (h : Accepted t) :
    Token.OnlyCombinators (ofToken t) := by
  induction h with
  | combinator s =>
    intro e he
    cases he
    exact ⟨s, rfl⟩
  | leaf h =>
    intro e he
    cases h.symm.trans he
  | @group lead tokens bangs hb hne _ ih =>
    intro e he
    unfold ofToken ofGroup at he
    simp only [hb, ne_eq, not_true_eq_false, if_false] at he
    split at he
    · next e' hi =>
      cases he
      exact onlyCombinators_ofSlots ih e hi
    · next hi => exact absurd (eq_nil_of_ofSlots hi) hne
    · cases he

end Expr

theorem Condition.sequenced_read (source : Text) :
    Token.Sequenced (Token.read Condition.delimiters source) Token.Within
      (fun tokens => ∀ t ∈ tokens, Expr.Accepted t)
      (fun tokens c => tokens = [] ∧ c.expr = none ∨ ∃ e, c.expr = some e ∧ Expr.Mirrors tokens e)
      (Condition.read source) := by
  apply Token.sequenced_of_alternates
  · exact fun level hl => Token.eq_nil_of_within hl
  · intro c h
    obtain ⟨tokens, ht, h⟩ := exists_of_bind_eq_ok h
    obtain ⟨expr, hx, h⟩ := exists_of_bind_eq_ok h
    cases h
    cases expr with
    | none =>
      have hnil := Expr.eq_nil_of_ofSlots hx
      exact ⟨tokens, ht, .inl ⟨hnil, rfl⟩, .inl hnil⟩
    | some e =>
      have hmirrors := Expr.mirrors_of_ofSlots (Expr.mirrorsItem_of_mem tokens) hx
      exact ⟨tokens, ht, .inr ⟨e, rfl, hmirrors⟩, .inr fun level hl => hmirrors.alternates hl⟩
  · intro tokens ht _ haccepted e he
    rcases error_or_exists_of_bind_eq_error he with he | ⟨tokens', ht', he⟩
    · cases ht.symm.trans he
    · obtain rfl : tokens = tokens' := Except.ok.inj (ht.symm.trans ht')
      rcases error_or_exists_of_bind_eq_error he with he | ⟨expr, -, he⟩
      · exact Expr.onlyCombinators_ofSlots (fun t hm => (haccepted t hm).onlyCombinators) e he
      · cases he

end QueryShorthand
