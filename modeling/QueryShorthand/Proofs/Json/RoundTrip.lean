import QueryShorthand.Proofs.Json.Nesting
import QueryShorthand.Proofs.Json.Number

/-! A document that is not nested too deep is read from its own text, if its numbers are. Integers
always are. -/
namespace QueryShorthand.Json

variable {r : Text} {depth fuel : Nat}

theorem hex4?_control (n : Nat) (h : n < 32) :
    hex4? '0' '0' (hexDigit (n / 16)) (hexDigit (n % 16)) = some n := by
  have all : ∀ n : Fin 32,
      hex4? '0' '0' (hexDigit (n.val / 16)) (hexDigit (n.val % 16)) = some n.val := by decide
  exact all ⟨n, h⟩

theorem textRest_escapedChar (c : Char) (s : Text) :
    textRest false none (escapedChar c ++ s) = consChar c (textRest false none s) := by
  unfold escapedChar
  by_cases hq : c = '"'
  · subst hq
    simp [textRest, escaped?]
  by_cases hb : c = '\\'
  · subst hb
    simp [textRest, escaped?]
  by_cases h8 : c = '\x08'
  · subst h8
    simp [textRest, escaped?]
  by_cases h12 : c = '\x0c'
  · subst h12
    simp [textRest, escaped?]
  by_cases hn : c = '\n'
  · subst hn
    simp [textRest, escaped?]
  by_cases hr : c = '\r'
  · subst hr
    simp [textRest, escaped?]
  by_cases ht : c = '\t'
  · subst ht
    simp [textRest, escaped?]
  rw [if_neg hq, if_neg hb, if_neg h8, if_neg h12, if_neg hn, if_neg hr, if_neg ht]
  by_cases h32 : c.toNat < 32
  · have hhigh : isHighSurrogate c.toNat = false := by
      simp only [isHighSurrogate, Bool.and_eq_false_iff, decide_eq_false_iff_not]
      omega
    have hlow : isLowSurrogate c.toNat = false := by
      simp only [isLowSurrogate, Bool.and_eq_false_iff, decide_eq_false_iff_not]
      omega
    rw [if_pos h32]
    simp [textRest, hex4?_control c.toNat h32, hhigh, hlow]
  · rw [if_neg h32, List.singleton_append, textRest, if_neg h32]
    · intro a b c' d r h
      exact absurd h hb
    · exact hq
    · intro d r h
      exact absurd h hb

theorem textRest_quotedText (t : Text) :
    textRest false none (t.flatMap escapedChar ++ '"' :: r) = some (t, r) := by
  induction t with
  | nil => rfl
  | cons c t ih =>
    rw [List.flatMap_cons, List.append_assoc, textRest_escapedChar, ih]
    rfl

mutual

/-- The document holds no float and is nested at most `depth` deep; the keys of its objects
ascend. -/
def Fits : Nat → Json → Prop
  | _, number (.float _ _) => False
  | depth, array items => 0 < depth ∧ FitsAll (depth - 1) items
  | depth, object members => 0 < depth ∧ Ascending members ∧ FitsMembers (depth - 1) members
  | _, _ => True

def FitsAll : Nat → List Json → Prop
  | _, [] => True
  | depth, j :: js => Fits depth j ∧ FitsAll depth js

def FitsMembers : Nat → List (Text × Json) → Prop
  | _, [] => True
  | depth, (_, j) :: ms => Fits depth j ∧ FitsMembers depth ms

end

mutual

def NumbersReread : Json → Prop
  | number n => n.Rereads
  | array items => NumbersRereadAll items
  | object members => NumbersRereadMembers members
  | _ => True

def NumbersRereadAll : List Json → Prop
  | [] => True
  | j :: js => NumbersReread j ∧ NumbersRereadAll js

def NumbersRereadMembers : List (Text × Json) → Prop
  | [] => True
  | (_, j) :: ms => NumbersReread j ∧ NumbersRereadMembers ms

end

mutual

theorem Fits.nests : ∀ {j : Json} {depth : Nat}, Fits depth j → Nests depth j
  | null, _, _ => trivial
  | bool _, _, _ => trivial
  | number _, _, _ => trivial
  | text _, _, _ => trivial
  | array _, _, h => ⟨h.1, FitsAll.nests h.2⟩
  | object _, _, h => ⟨h.1, h.2.1, FitsMembers.nests h.2.2⟩

theorem FitsAll.nests : ∀ {js : List Json} {depth : Nat}, FitsAll depth js → NestsAll depth js
  | [], _, _ => trivial
  | _ :: _, _, h => ⟨h.1.nests, FitsAll.nests h.2⟩

theorem FitsMembers.nests : ∀ {ms : List (Text × Json)} {depth : Nat},
    FitsMembers depth ms → NestsMembers depth ms
  | [], _, _ => trivial
  | _ :: _, _, h => ⟨h.1.nests, FitsMembers.nests h.2⟩

end

mutual

theorem Fits.numbersReread : ∀ {j : Json} {depth : Nat}, Fits depth j → j.NumbersReread
  | null, _, _ => trivial
  | bool _, _, _ => trivial
  | number (.natural n), _, _ => Number.rereads_natural n
  | number (.negative n hn), _, _ => Number.rereads_negative n hn
  | number (.float _ _), depth, h => by cases depth <;> exact h.elim
  | text _, _, _ => trivial
  | array _, _, h => FitsAll.numbersReread h.2
  | object _, _, h => FitsMembers.numbersReread h.2.2

theorem FitsAll.numbersReread : ∀ {js : List Json} {depth : Nat},
    FitsAll depth js → NumbersRereadAll js
  | [], _, _ => trivial
  | _ :: _, _, h => ⟨h.1.numbersReread, FitsAll.numbersReread h.2⟩

theorem FitsMembers.numbersReread : ∀ {ms : List (Text × Json)} {depth : Nat},
    FitsMembers depth ms → NumbersRereadMembers ms
  | [], _, _ => trivial
  | _ :: _, _, h => ⟨h.1.numbersReread, FitsMembers.numbersReread h.2⟩

end

def Begins (c : Char) : Prop := isDigit c = true ∨ c ∈ ['-', 'n', 't', 'f', '"', '[', '\x7b']

theorem skipBlanks_cons {c : Char} {t : Text}
    (h : (c == ' ' || c == '\n' || c == '\t' || c == '\r') = false) :
    skipBlanks (c :: t) = c :: t := by
  rw [skipBlanks, List.dropWhile_cons_of_neg (by simp [h])]

theorem isBlank_of_begins {c : Char} (h : Begins c) :
    (c == ' ' || c == '\n' || c == '\t' || c == '\r') = false := by
  by_contra hc
  simp only [Bool.not_eq_false, Bool.or_eq_true, beq_iff_eq] at hc
  rcases hc with ((rfl | rfl) | rfl) | rfl <;> revert h <;> unfold Begins <;> decide

theorem begins_written {j : Json} (h : j.NumbersReread) : ∃ c t, j.written = c :: t ∧ Begins c := by
  cases j with
  | null => exact ⟨_, _, rfl, .inr (by decide)⟩
  | bool b => cases b <;> exact ⟨_, _, rfl, .inr (by decide)⟩
  | number n =>
    obtain ⟨c, t, ht, hc⟩ := begins_of_number? h
    exact ⟨c, t, ht, hc.imp_right fun h => by simp [h]⟩
  | text t => exact ⟨_, _, rfl, .inr (by decide)⟩
  | array items => exact ⟨_, _, rfl, .inr (by decide)⟩
  | object members => exact ⟨_, _, rfl, .inr (by decide)⟩

theorem value?_number {c : Char} {t : Text} (hc : isDigit c = true ∨ c = '-') :
    value? false (fuel + 1) depth (c :: t) =
      (number? false (c :: t)).map fun p => (number p.1, p.2) := by
  have hbegins : Begins c := hc.imp_right fun h => by simp [h]
  have ne {d : Char} {u : Text} (h : c :: t = d :: u) (hd : ¬ (isDigit d = true ∨ d = '-')) :
      False := by
    obtain ⟨rfl, -⟩ := List.cons.inj h
    exact hd hc
  rw [value?, skipBlanks_cons (isBlank_of_begins hbegins)]
  split
  · next h => exact (ne h (by decide)).elim
  · next h => exact (ne h (by decide)).elim
  · next h => exact (ne h (by decide)).elim
  · next h => exact (ne h (by decide)).elim
  · next h => exact (ne h (by decide)).elim
  · next h => exact (ne h (by decide)).elim
  · rfl

theorem begins_writtenItems {j : Json} {js : List Json} (h : j.NumbersReread) :
    ∃ c t, writtenItems (j :: js) = c :: t ∧ Begins c := by
  obtain ⟨c, t, ht, hc⟩ := begins_written h
  cases js with
  | nil => exact ⟨c, t, by rw [writtenItems, ht], hc⟩
  | cons k ks => exact ⟨c, _, by rw [writtenItems, ht, List.cons_append]; simp, hc⟩

theorem value?_text (t : Text) :
    value? false (fuel + 1) depth (quotedText t ++ r) = some (text t, r) := by
  have hr : quotedText t ++ r = '"' :: (t.flatMap escapedChar ++ '"' :: r) := by
    simp [quotedText]
  rw [hr, value?, skipBlanks_cons (by decide)]
  simp [textRest_quotedText]

theorem value?_array_nil : value? false (fuel + 1) (depth + 1) ('[' :: ']' :: r) =
    some (array [], r) := by
  rw [value?, skipBlanks_cons (by decide)]
  simp [skipBlanks_cons]

theorem value?_array {t : Text} {items : List Json} (ht : ∃ c u, t = c :: u ∧ Begins c)
    (h : items? false fuel depth (t ++ ']' :: r) = some (items, r)) :
    value? false (fuel + 1) (depth + 1) ('[' :: (t ++ ']' :: r)) = some (array items, r) := by
  obtain ⟨c, u, rfl, hc⟩ := ht
  rw [value?, skipBlanks_cons (by decide)]
  simp only [List.cons_append, skipBlanks_cons (isBlank_of_begins hc)] at h ⊢
  split
  · next h' =>
    obtain ⟨rfl, -⟩ := List.cons.inj h'
    exact absurd hc (by unfold Begins; decide)
  · rw [h]
    rfl

theorem items?_last {t : Text} {j : Json}
    (h : value? false fuel depth (t ++ ']' :: r) = some (j, ']' :: r)) :
    items? false (fuel + 1) depth (t ++ ']' :: r) = some ([j], r) := by
  rw [items?, h]
  simp [skipBlanks_cons]

theorem items?_more {t u : Text} {j : Json} {js : List Json}
    (h : value? false fuel depth (t ++ ',' :: u) = some (j, ',' :: u))
    (hs : items? false fuel depth u = some (js, r)) :
    items? false (fuel + 1) depth (t ++ ',' :: u) = some (j :: js, r) := by
  rw [items?, h]
  simp [skipBlanks_cons, hs]

theorem members?_last {t : Text} {k : Text} {j : Json}
    (h : value? false fuel depth (t ++ '\x7d' :: r) = some (j, '\x7d' :: r)) :
    members? false (fuel + 1) depth (quotedText k ++ ':' :: (t ++ '\x7d' :: r)) =
      some ([(k, j)], r) := by
  have hk : quotedText k ++ ':' :: (t ++ '\x7d' :: r) =
      '"' :: (k.flatMap escapedChar ++ '"' :: ':' :: (t ++ '\x7d' :: r)) := by simp [quotedText]
  rw [hk, members?, skipBlanks_cons (by decide)]
  simp [textRest_quotedText, skipBlanks_cons, h]

theorem members?_more {t u : Text} {k : Text} {j : Json} {ms : List (Text × Json)}
    (h : value? false fuel depth (t ++ ',' :: u) = some (j, ',' :: u))
    (hs : members? false fuel depth u = some (ms, r)) :
    members? false (fuel + 1) depth (quotedText k ++ ':' :: (t ++ ',' :: u)) =
      some ((k, j) :: ms, r) := by
  have hk : quotedText k ++ ':' :: (t ++ ',' :: u) =
      '"' :: (k.flatMap escapedChar ++ '"' :: ':' :: (t ++ ',' :: u)) := by simp [quotedText]
  rw [hk, members?, skipBlanks_cons (by decide)]
  simp [textRest_quotedText, skipBlanks_cons, h, hs]

theorem value?_object_nil : value? false (fuel + 1) (depth + 1) ('\x7b' :: '\x7d' :: r) =
    some (object [], r) := by
  rw [value?, skipBlanks_cons (by decide)]
  simp [skipBlanks_cons]

theorem value?_object {t : Text} {ms : List (Text × Json)} (ht : t.head? = some '"')
    (h : members? false fuel depth (t ++ '\x7d' :: r) = some (ms, r)) :
    value? false (fuel + 1) (depth + 1) ('\x7b' :: (t ++ '\x7d' :: r)) =
      some (ofMembers ms, r) := by
  obtain ⟨u, rfl⟩ := List.head?_eq_some_iff.1 ht
  rw [value?, skipBlanks_cons (by decide)]
  simp only [List.cons_append, skipBlanks_cons
    (by decide : ('"' == ' ' || '"' == '\n' || '"' == '\t' || '"' == '\r') = false)] at h ⊢
  simp [h]

theorem insertKey_last {α : Type} {k : Text} {v : α} {l : List (Text × α)} (h : ∀ e ∈ l, e.1 < k) :
    insertKey k v l = l ++ [(k, v)] := by
  induction l with
  | nil => rfl
  | cons e l ih =>
    have he := h e List.mem_cons_self
    have hne : k ≠ e.1 := fun hk => List.lt_irrefl _ (hk ▸ he)
    have hnlt : ¬ k < e.1 := fun hk => List.lt_irrefl _ (List.lt_trans hk he)
    rw [insertKey, if_neg hne, if_neg hnlt, ih fun e h' => h e (List.mem_cons_of_mem _ h'),
      List.cons_append]

theorem ofMembers_eq {ms : List (Text × Json)} (h : Ascending ms) : ofMembers ms = object ms := by
  have general : ∀ (ms l : List (Text × Json)), Ascending (l ++ ms) →
      ms.foldl (fun l e => insertKey e.1 e.2 l) l = l ++ ms := by
    intro ms
    induction ms with
    | nil => intro l _; simp
    | cons e ms ih =>
      intro l hl
      have hlast : ∀ e' ∈ l, e'.1 < e.1 := fun e' he' =>
        (List.pairwise_append.1 hl).2.2 e' he' e List.mem_cons_self
      rw [List.foldl_cons, insertKey_last hlast, ih _ (by simpa using hl), List.append_assoc]
      rfl
  rw [ofMembers, general ms [] h, List.nil_append]

mutual

/-- Each character pays for two steps. -/
theorem value?_written :
    ∀ {j : Json} {depth fuel : Nat} {r : Text}, Nests depth j → j.NumbersReread →
    Follows r → 2 * j.written.length ≤ fuel → value? false fuel depth (j.written ++ r) = some (j, r)
  | j, depth, 0, r, _, h, _, hf => by
    obtain ⟨c, t, ht, -⟩ := begins_written h
    rw [ht, List.length_cons] at hf
    omega
  | null, depth, fuel + 1, r, _, _, _, _ => by
    rw [written, value?]
    rfl
  | bool true, depth, fuel + 1, r, _, _, _, _ => by
    rw [written, value?]
    rfl
  | bool false, depth, fuel + 1, r, _, _, _, _ => by
    rw [written, value?]
    rfl
  | number n, depth, fuel + 1, r, _, h, hr, _ => by
    have hrereads : n.Rereads := h
    have hn := hrereads.append hr
    obtain ⟨c, t, ht, hc⟩ := begins_of_number? hrereads
    rw [written]
    rw [ht, List.cons_append] at hn ⊢
    rw [value?_number hc, hn]
    rfl
  | text t, depth, fuel + 1, r, _, _, _, _ => value?_text t
  | array [], depth, fuel + 1, r, h, _, _, _ => by
    obtain ⟨depth, rfl⟩ := Nat.exists_eq_succ_of_ne_zero (Nat.ne_of_gt h.1)
    exact value?_array_nil
  | array (j :: js), depth, fuel + 1, r, h, hn, _, hf => by
    obtain ⟨depth, rfl⟩ := Nat.exists_eq_succ_of_ne_zero (Nat.ne_of_gt h.1)
    have hw : (array (j :: js)).written ++ r = '[' :: (writtenItems (j :: js) ++ ']' :: r) := by
      simp [written]
    have hlen : (array (j :: js)).written.length = (writtenItems (j :: js)).length + 2 := by
      simp [written]
    rw [hw]
    exact value?_array (begins_writtenItems hn.1) (items?_written h.2 hn (by simp) (by omega))
  | object [], depth, fuel + 1, r, h, _, _, _ => by
    obtain ⟨depth, rfl⟩ := Nat.exists_eq_succ_of_ne_zero (Nat.ne_of_gt h.1)
    exact value?_object_nil
  | object (m :: ms), depth, fuel + 1, r, h, hn, _, hf => by
    obtain ⟨depth, rfl⟩ := Nat.exists_eq_succ_of_ne_zero (Nat.ne_of_gt h.1)
    have hw : (object (m :: ms)).written ++ r =
        '\x7b' :: (writtenMembers (m :: ms) ++ '\x7d' :: r) := by simp [written]
    have hlen : (object (m :: ms)).written.length = (writtenMembers (m :: ms)).length + 2 := by
      simp [written]
    have hhead : (writtenMembers (m :: ms)).head? = some '"' := by
      cases ms <;> rfl
    rw [hw, ← ofMembers_eq h.2.1]
    exact value?_object hhead (members?_written h.2.2 hn (by simp) (by omega))

theorem items?_written : ∀ {js : List Json} {depth fuel : Nat} {r : Text}, NestsAll depth js →
    NumbersRereadAll js → js ≠ [] → 2 * (writtenItems js).length + 1 ≤ fuel →
    items? false fuel depth (writtenItems js ++ ']' :: r) = some (js, r)
  | [], _, _, _, _, _, hne, _ => absurd rfl hne
  | [j], depth, fuel + 1, r, h, hn, _, hf => by
    rw [writtenItems] at hf ⊢
    exact items?_last (value?_written h.1 hn.1 (follows_cons (by simp)) (by omega))
  | j :: k :: js, depth, fuel + 1, r, h, hn, _, hf => by
    have hw : writtenItems (j :: k :: js) = j.written ++ ',' :: writtenItems (k :: js) := by
      rw [writtenItems]
      simp
    rw [hw, List.length_append, List.length_cons] at hf
    rw [hw, List.append_assoc, List.cons_append]
    refine items?_more (value?_written h.1 hn.1 (follows_cons (by simp)) (by omega)) ?_
    exact items?_written h.2 hn.2 (by simp) (by omega)

theorem members?_written : ∀ {ms : List (Text × Json)} {depth fuel : Nat} {r : Text},
    NestsMembers depth ms → NumbersRereadMembers ms → ms ≠ [] →
    2 * (writtenMembers ms).length + 1 ≤ fuel →
    members? false fuel depth (writtenMembers ms ++ '\x7d' :: r) = some (ms, r)
  | [], _, _, _, _, _, hne, _ => absurd rfl hne
  | [(k, j)], depth, fuel + 1, r, h, hn, _, hf => by
    rw [writtenMembers, List.length_append, List.length_cons] at hf
    rw [writtenMembers, List.append_assoc, List.cons_append]
    exact members?_last (value?_written h.1 hn.1 (follows_cons (by simp)) (by omega))
  | (k, j) :: m :: ms, depth, fuel + 1, r, h, hn, _, hf => by
    have hw : writtenMembers ((k, j) :: m :: ms) =
        quotedText k ++ ':' :: (j.written ++ ',' :: writtenMembers (m :: ms)) := by
      rw [writtenMembers]
      simp
    rw [hw] at hf ⊢
    simp only [List.length_append, List.length_cons] at hf
    simp only [List.append_assoc, List.cons_append]
    refine members?_more (value?_written h.1 hn.1 (follows_cons (by simp)) (by omega)) ?_
    exact members?_written h.2 hn.2 (by simp) (by omega)

end

theorem read?_written {j : Json} (h : Nests 127 j) (hn : j.NumbersReread) :
    read? j.written = some j := by
  have hv : value? false (2 * j.written.length + 1) 127 (j.written ++ []) = some (j, []) :=
    value?_written h hn follows_nil (by omega)
  rw [List.append_nil] at hv
  rw [read?, valueAt?]
  simp only [Limits.document, hv]
  rfl

end QueryShorthand.Json
