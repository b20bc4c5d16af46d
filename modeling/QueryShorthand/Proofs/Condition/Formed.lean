import QueryShorthand.Condition.Reader
import QueryShorthand.Proofs.Agreement
import QueryShorthand.Proofs.Operand.Reading

/-! Condition trees have the shape that precedence gives them: an OR of ANDs of clips. Any property
of operands that reading establishes holds throughout such a tree. -/
namespace QueryShorthand.Expr

variable {flagOk : Operand → Prop} {pairOk : Operand → Operand → Prop}

def isClip : Expr → Bool
  | all _ => false
  | any _ => false
  | _ => true

def isTerm : Expr → Bool
  | any _ => false
  | _ => true

def isAtom : Expr → Bool
  | flag _ => true
  | compare _ _ _ => true
  | group _ => true
  | _ => false

theorem isTerm_of_isClip {e : Expr} (h : e.isClip = true) : e.isTerm = true := by
  cases e <;> simp_all [isClip, isTerm]

theorem isClip_of_isAtom {e : Expr} (h : e.isAtom = true) : e.isClip = true := by
  cases e <;> simp_all [isClip, isAtom]

mutual

def Formed (flagOk : Operand → Prop) (pairOk : Operand → Operand → Prop) : Expr → Prop
  | all items => 2 ≤ items.length ∧ items.all isClip = true ∧ FormedAll flagOk pairOk items
  | any items => 2 ≤ items.length ∧ items.all isTerm = true ∧ FormedAll flagOk pairOk items
  | not e => e.isAtom = true ∧ e.Formed flagOk pairOk
  | group e => e.Formed flagOk pairOk
  | flag o => flagOk o
  | compare l _ r => pairOk l r

def FormedAll (flagOk : Operand → Prop) (pairOk : Operand → Operand → Prop) : List Expr → Prop
  | [] => True
  | e :: es => e.Formed flagOk pairOk ∧ FormedAll flagOk pairOk es

end

theorem formedAll_iff {es : List Expr} :
    FormedAll flagOk pairOk es ↔ ∀ e ∈ es, e.Formed flagOk pairOk := by
  induction es with
  | nil => simp [FormedAll]
  | cons e es ih => simp [FormedAll, ih]

theorem ne_nil_of_mem_alternatives {items : List Item} {g : List Expr}
    (h : g ∈ alternatives items) :
    g ≠ [] := by
  fun_induction alternatives items with
  | case1 => simp at h
  | case2 => grind
  | case3 => grind
  | case4 => grind

theorem mem_of_mem_alternatives {items : List Item} {g : List Expr} {e : Expr}
    (hg : g ∈ alternatives items) (he : e ∈ g) : ∃ b, (b, e) ∈ items := by
  fun_induction alternatives items generalizing g with
  | case1 => simp at hg
  | case2 => grind
  | case3 => grind
  | case4 => grind

theorem collapsed_cases (join : List Expr → Expr) {es : List Expr} (h : es ≠ []) :
    (∃ e, es = [e] ∧ collapsed join es = e) ∨ (2 ≤ es.length ∧ collapsed join es = join es) := by
  match es with
  | [] => exact absurd rfl h
  | [e] => exact .inl ⟨e, rfl, rfl⟩
  | e :: e' :: es => exact .inr ⟨by simp, rfl⟩

theorem formed_of_group {g : List Expr} (hg : g ≠ [])
    (h : ∀ e ∈ g, e.isClip = true ∧ e.Formed flagOk pairOk) :
    (collapsed all g).isTerm = true ∧ (collapsed all g).Formed flagOk pairOk := by
  rcases collapsed_cases all hg with ⟨e, rfl, he⟩ | ⟨hl, he⟩
  · have hm := h e (List.mem_singleton.2 rfl)
    rw [he]
    exact ⟨isTerm_of_isClip hm.1, hm.2⟩
  · rw [he]
    refine ⟨rfl, hl, ?_, ?_⟩
    · exact List.all_eq_true.2 fun e hm => (h e hm).1
    · exact formedAll_iff.2 fun e hm => (h e hm).2

theorem formed_of_ofSlots {slots : List (Slot (Except Error Item))} {e : Expr}
    (h : ∀ read b x, Slot.item read ∈ slots → read b = .ok x →
      x.2.isClip = true ∧ x.2.Formed flagOk pairOk)
    (he : ofSlots slots = .ok (some e)) : e.Formed flagOk pairOk := by
  obtain ⟨items, hi, he⟩ := exists_of_bind_eq_ok he
  have hne : items ≠ [] := by
    rintro rfl
    cases he
  have clips : ∀ e b, (b, e) ∈ items → e.isClip = true ∧ e.Formed flagOk pairOk := by
    intro e b hm
    obtain ⟨read, b', hs, hr⟩ := Slot.exists_item_of_items hi _ hm
    exact h read b' _ hs hr
  have groups : ∀ t ∈ (alternatives items).map (collapsed all),
      t.isTerm = true ∧ t.Formed flagOk pairOk := by
    intro t ht
    obtain ⟨g, hg, rfl⟩ := List.mem_map.1 ht
    refine formed_of_group (ne_nil_of_mem_alternatives hg) fun e he => ?_
    obtain ⟨b, hb⟩ := mem_of_mem_alternatives hg he
    exact clips e b hb
  have halt : (alternatives items).map (collapsed all) ≠ [] := by
    obtain ⟨x, rest, rfl⟩ := List.exists_cons_of_ne_nil hne
    rw [ne_eq, List.map_eq_nil_iff]
    unfold alternatives
    split <;> simp
  rw [if_neg (by simpa using hne)] at he
  cases he
  rcases collapsed_cases any halt with ⟨t, ht, hc⟩ | ⟨hl, hc⟩
  · rw [hc]
    exact (groups t (by simp [ht])).2
  · rw [hc]
    refine ⟨hl, List.all_eq_true.2 fun t ht => (groups t ht).1, ?_⟩
    exact formedAll_iff.2 fun t ht => (groups t ht).2

theorem formed_negated {e : Expr} (bangs : Nat) (ha : e.isAtom = true)
    (h : e.Formed flagOk pairOk) :
    (negated bangs e).isClip = true ∧ (negated bangs e).Formed flagOk pairOk := by
  unfold negated
  split
  · exact ⟨rfl, ha, h⟩
  · exact ⟨isClip_of_isAtom ha, h⟩

theorem formed_of_ofGroup {written lead tail : Text} {inner : List (Slot (Except Error Item))}
    {e : Expr} (hi : ∀ e, ofSlots inner = .ok (some e) → e.Formed flagOk pairOk)
    (h : ofGroup written lead tail inner = .ok e) :
    e.isClip = true ∧ e.Formed flagOk pairOk := by
  unfold ofGroup at h
  split at h
  · cases h
  · split at h
    · cases h
    · split at h
      · cases h
      · cases h
      · next he =>
        cases h
        exact formed_negated _ rfl (by rw [Formed]; exact hi _ he)

section

variable (hflag : ∀ t o, Operand.read t = .ok o → flagOk o)
  (hpair : ∀ clip tl tr l op r l' op' r', Operand.read tl = .ok l → Operand.read tr = .ok r →
    comparison clip l op r = .ok (compare l' op' r') → pairOk l' r')

include hflag hpair

theorem formed_of_ofBody {clip body : Text} {e : Expr} (h : ofBody clip body = .ok e) :
    e.isAtom = true ∧ e.Formed flagOk pairOk := by
  obtain ⟨parts, -, h⟩ := exists_of_bind_eq_ok h
  split at h
  · obtain ⟨o, ho, h⟩ := exists_of_bind_eq_ok h
    cases h
    exact ⟨rfl, hflag _ _ ho⟩
  · split at h
    · cases h
    · obtain ⟨l, hl, h⟩ := exists_of_bind_eq_ok h
      obtain ⟨r, hr, h⟩ := exists_of_bind_eq_ok h
      have hc := h
      unfold comparison at hc
      split at hc
      · cases hc
      · split at hc <;> cases hc
        · exact ⟨rfl, hpair _ _ _ _ _ _ _ _ _ hl hr h⟩
        · exact ⟨rfl, hpair _ _ _ _ _ _ _ _ _ hl hr h⟩
  · cases h

theorem formed_of_ofLeaf {leaf : Text} {e : Expr} (h : ofLeaf leaf = .ok e) :
    e.isClip = true ∧ e.Formed flagOk pairOk := by
  obtain ⟨body, hb, rfl⟩ := exists_of_map_eq_ok h
  have hf := formed_of_ofBody hflag hpair hb
  exact formed_negated _ hf.1 hf.2

omit hflag hpair in
mutual

theorem formed_of_slot
    (hleaf : ∀ t e, ofLeaf t = .ok e → e.isClip = true ∧ e.Formed flagOk pairOk) :
    ∀ (token : Token) {read : Option Text → Except Error Item} {b : Option Text} {x : Item},
      slot token = .item read → read b = .ok x → x.2.isClip = true ∧ x.2.Formed flagOk pairOk
  | .combinator s, _, _, _, hs, _ => by
    rw [slot] at hs
    cases hs
  | .leaf t, _, _, _, hs, hx => by
    rw [slot] at hs
    cases hs
    obtain ⟨e, he, rfl⟩ := exists_of_map_eq_ok hx
    exact hleaf _ _ he
  | .group lead tokens tail, _, _, _, hs, hx => by
    rw [slot] at hs
    cases hs
    obtain ⟨e, he, rfl⟩ := exists_of_map_eq_ok hx
    refine formed_of_ofGroup (fun inner hi => ?_) he
    exact formed_of_ofSlots (fun read b x hm hx => formed_of_slots hleaf tokens hm hx) hi

theorem formed_of_slots
    (hleaf : ∀ t e, ofLeaf t = .ok e → e.isClip = true ∧ e.Formed flagOk pairOk) :
    ∀ (tokens : List Token) {read : Option Text → Except Error Item} {b : Option Text} {x : Item},
      .item read ∈ slots tokens → read b = .ok x → x.2.isClip = true ∧ x.2.Formed flagOk pairOk
  | [], _, _, _, hm, _ => by simp [slots] at hm
  | token :: tokens, _, _, _, hm, hx => by
    rw [slots] at hm
    rcases List.mem_cons.1 hm with hm | hm
    · exact formed_of_slot hleaf token hm.symm hx
    · exact formed_of_slots hleaf tokens hm hx

end

theorem formed_of_read {source : Text} {c : Condition} {e : Expr}
    (h : Condition.read source = .ok c) (he : c.expr = some e) : e.Formed flagOk pairOk := by
  obtain ⟨tokens, -, h⟩ := exists_of_bind_eq_ok h
  obtain ⟨expr, hx, h⟩ := exists_of_bind_eq_ok h
  cases h
  cases he
  have hleaf : ∀ t e, ofLeaf t = .ok e → e.isClip = true ∧ e.Formed flagOk pairOk :=
    fun t e => formed_of_ofLeaf hflag hpair
  exact formed_of_ofSlots (fun _ _ _ hm hr => formed_of_slots hleaf tokens hm hr) hx

end

end QueryShorthand.Expr
