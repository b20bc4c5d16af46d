import Mathlib.Data.List.Chain
import QueryShorthand.Proofs.Agreement
import QueryShorthand.Proofs.Token.Scan
import QueryShorthand.Token.List

/-! Items and combinators side by side, on every level of what was read. -/
namespace QueryShorthand

namespace Token

/-- The tokens themselves, or at any depth those in the parentheses of a group. -/
inductive Within : List Token → List Token → Prop where
  | whole (tokens : List Token) : Within tokens tokens
  | inside {tokens inner level : List Token} {lead tail : Text}
      (hm : .group lead inner tail ∈ tokens)
      (h : Within inner level) : Within tokens level

theorem eq_nil_of_within {level : List Token} (h : Within [] level) : level = [] := by
  cases h with
  | whole => rfl
  | inside hm => cases hm

def Separated (tokens : List Token) : Prop :=
  tokens.IsChain fun a b => a.isCombinator = true ∨ b.isCombinator = true

/-- Item, combinator, item and so on, with an item at either end. -/
inductive Alternates : List Token → Prop where
  | last {t : Token} (ht : t.isCombinator = false) : Alternates [t]
  | more {t : Token} {s : Text} {rest : List Token} (ht : t.isCombinator = false)
      (h : Alternates rest) :
      Alternates (t :: combinator s :: rest)

/-- A combinator leads, trails or follows another one. -/
inductive Misplaced : List Token → Prop where
  | leading (s : Text) (rest : List Token) : Misplaced (combinator s :: rest)
  | trailing (front : List Token) (s : Text) : Misplaced (front ++ [combinator s])
  | doubled (front : List Token) (s s' : Text) (rest : List Token) :
      Misplaced (front ++ combinator s :: combinator s' :: rest)

theorem Misplaced.ne_nil {tokens : List Token} (h : Misplaced tokens) : tokens ≠ [] := by
  cases h <;> simp

def itemsBehind : Option Text → List Token → List (Option Text × Token)
  | _, [] => []
  | _, combinator s :: rest => itemsBehind (some s) rest
  | before, t :: rest => (before, t) :: itemsBehind none rest

/-- The items of a sequence. A combinator that leads is no reason not to take the first item for the
first. -/
def inPlace (tokens : List Token) : List (Option Text × Token) :=
  itemsBehind none (tokens.dropWhile isCombinator)

theorem Alternates.not_misplaced {tokens : List Token} (h : Alternates tokens) :
    ¬ Misplaced tokens := by
  induction h with
  | @last t ht =>
    intro hm
    generalize hl : [t] = l at hm
    cases hm with
    | leading s rest => cases hl; cases ht
    | trailing front s =>
      obtain ⟨rfl, hs⟩ | ⟨rfl, hs⟩ := List.append_eq_singleton_iff.1 hl.symm
      · cases hs; cases ht
      · cases hs
    | doubled front s s' rest =>
      have hlen := congrArg List.length hl
      simp at hlen
      omega
  | @more t s rest ht h ih =>
    intro hm
    generalize hl : t :: combinator s :: rest = l at hm
    cases hm with
    | leading => cases hl; cases ht
    | trailing front s' =>
      rcases front with _ | ⟨a, _ | ⟨b, front⟩⟩
      · cases hl
      · cases hl; cases h
      · cases hl
        exact ih (.trailing front s')
    | doubled front s' s'' rest' =>
      rcases front with _ | ⟨a, _ | ⟨b, front⟩⟩
      · cases hl; cases ht
      · cases hl
        exact ih (.leading s'' rest')
      · cases hl
        exact ih (.doubled front s' s'' rest')

def SeparatedWithin (tokens : List Token) : Prop := ∀ level, Within tokens level → Separated level

theorem separatedWithin_nil : SeparatedWithin [] := by
  rintro level (_ | ⟨hm, -⟩)
  · exact .nil
  · cases hm

theorem SeparatedWithin.append_singleton {tokens : List Token} {t : Token}
    (h : SeparatedWithin tokens)
    (ht : ∀ a ∈ tokens.getLast?, a.isCombinator = true ∨ t.isCombinator = true)
    (hinner : ∀ lead inner tail, t = .group lead inner tail → SeparatedWithin inner) :
    SeparatedWithin (tokens ++ [t]) := by
  rintro level (_ | ⟨hm, hl⟩)
  · refine List.isChain_append.2 ⟨h tokens (.whole tokens), .singleton t, fun a ha b hb => ?_⟩
    cases hb
    exact ht a ha
  · rcases List.mem_append.1 hm with hm | hm
    · exact h level (.inside hm hl)
    · exact hinner _ _ _ (List.mem_singleton.1 hm).symm level hl

end Token

structure Level.Ready (level : Level) : Prop where
  tokens : Token.SeparatedWithin level.tokens
  last : ∀ a ∈ level.tokens.getLast?, a.isCombinator = true
  group : ∀ p, level.group = some p → Token.SeparatedWithin p.2

theorem Level.ready_start : ({} : Level).Ready where
  tokens := Token.separatedWithin_nil
  last := by simp
  group := by simp

theorem Level.Ready.flushed {hook : Text → Except Error Text} {level : Level} {tokens : List Token}
    (h : level.Ready) (hf : level.flushed hook = .ok tokens) : Token.SeparatedWithin tokens := by
  unfold Level.flushed at hf
  split at hf
  · next p inner hg =>
    cases hf
    refine h.tokens.append_singleton (fun a ha => .inl (h.last a ha)) ?_
    rintro _ _ _ ⟨⟩
    exact h.group _ hg
  · split at hf
    · cases hf
      exact h.tokens
    · obtain ⟨leaf, -, rfl⟩ := exists_of_map_eq_ok hf
      refine h.tokens.append_singleton (fun a ha => .inl (h.last a ha)) ?_
      rintro _ _ _ ⟨⟩

namespace Token

theorem separatedWithin_of_assemble {hook : Text → Except Error Text} {fail : Stop → Error}
    {stop : Option Stop} {pieces : List Piece} {stack : List (Text × Level)} {level : Level}
    {tokens : List Token} (h : assemble hook fail stop stack level pieces = .ok tokens)
    (hl : level.Ready) (hs : ∀ l ∈ stack, l.2.Ready) : SeparatedWithin tokens := by
  fun_induction assemble hook fail stop stack level pieces with
  | case1 => cases h
  | case2 => cases h
  | case3 level => exact hl.flushed h
  | case4 stack level c ps ih => exact ih h { hl with } hs
  | case5 stack level t ps ih => exact ih h { hl with } hs
  | case6 => cases h
  | case7 stack level m ps ts hf ih =>
    refine ih h ⟨?_, by simp [isCombinator], by simp⟩ hs
    refine (hl.flushed hf).append_singleton (fun a _ => .inr rfl) ?_
    rintro _ _ _ ⟨⟩
  | case8 => cases h
  | case9 stack level here ps hg ih =>
    exact ih h Level.ready_start (List.forall_mem_cons.2 ⟨hl, hs⟩)
  | case10 => cases h
  | case11 => cases h
  | case12 level here ps h0 outer stack ts hf ih =>
    obtain ⟨ho, hs⟩ := List.forall_mem_cons.1 hs
    refine ih h ⟨ho.tokens, ho.last, ?_⟩ hs
    rintro _ ⟨⟩
    exact hl.flushed hf

theorem separatedWithin_of_readWith {hook : Text → Except Error Text} {delimiters : List Text}
    {input : Text} {tokens : List Token} (h : readWith hook delimiters input = .ok tokens) :
    SeparatedWithin tokens :=
  separatedWithin_of_assemble h Level.ready_start fun _ hl => by cases hl

def slotOf {β : Type} (read : Token → Option Text → β) : Token → Slot β
  | combinator s => .mark s
  | t => .item (read t)

variable {tokens rest : List Token} {t : Token} {before : Option Text}

theorem eq_combinator (ht : t.isCombinator = true) : ∃ s, t = combinator s := by
  cases t with
  | combinator s => exact ⟨s, rfl⟩
  | leaf => cases ht
  | group => cases ht

theorem Alternates.congr {tokens' : List Token} (h : Alternates tokens)
    (hm : tokens.map isCombinator = tokens'.map isCombinator) : Alternates tokens' := by
  induction h generalizing tokens' with
  | last ht =>
    obtain ⟨u, rfl, hu⟩ := List.map_eq_singleton_iff.1 hm.symm
    exact .last (hu.trans ht)
  | more ht _ ih =>
    obtain ⟨u, behind, rfl, hu, hbehind⟩ := List.map_eq_cons_iff.1 hm.symm
    obtain ⟨c, rest, rfl, hc, hrest⟩ := List.map_eq_cons_iff.1 hbehind
    obtain ⟨s, rfl⟩ := eq_combinator hc
    exact .more (hu.trans ht) (ih hrest.symm)

theorem slotOf_item {β : Type} {read : Token → Option Text → β} (ht : t.isCombinator = false) :
    slotOf read t = .item (read t) := by
  cases t <;> first | rfl | cases ht

theorem itemsBehind_item (ht : t.isCombinator = false) :
    itemsBehind before (t :: rest) = (before, t) :: itemsBehind none rest := by
  cases t <;> first | rfl | cases ht

theorem inPlace_item (ht : t.isCombinator = false) :
    inPlace (t :: rest) = itemsBehind none (t :: rest) := by
  rw [inPlace, List.dropWhile_cons_of_neg (by simp [ht])]

theorem Alternates.inPlace_eq (h : Alternates tokens) :
    inPlace tokens = itemsBehind none tokens := by
  cases h with
  | last ht => exact inPlace_item ht
  | more ht _ => exact inPlace_item ht

theorem exists_itemsBehind (front behind : List Token) (before : Option Text) : ∃ items b items',
    ∀ t : Token, t.isCombinator = false →
      itemsBehind before (front ++ t :: behind) = items ++ (b, t) :: items' := by
  induction front generalizing before with
  | nil => exact ⟨[], before, itemsBehind none behind, fun t ht => itemsBehind_item ht⟩
  | cons u front ih =>
    cases hu : u.isCombinator with
    | true =>
      obtain ⟨s, rfl⟩ := eq_combinator hu
      exact ih (some s)
    | false =>
      obtain ⟨items, b, items', h⟩ := ih none
      refine ⟨(before, u) :: items, b, items', fun t ht => ?_⟩
      rw [List.cons_append, itemsBehind_item hu, h t ht, List.cons_append]

theorem exists_inPlace (front behind : List Token) :
    ∃ items b items', ∀ t : Token, t.isCombinator = false →
    inPlace (front ++ t :: behind) = items ++ (b, t) :: items' := by
  obtain ⟨items, b, items', h⟩ := exists_itemsBehind (front.dropWhile isCombinator) behind none
  refine ⟨items, b, items', fun t ht => ?_⟩
  rw [← h t ht, inPlace, List.dropWhile_append]
  split
  · next hnil =>
    rw [List.isEmpty_iff.1 hnil, List.dropWhile_cons_of_neg (by simp [ht])]
    rfl
  · rfl

theorem mem_of_mem_itemsBehind {p : Option Text × Token} (h : p ∈ itemsBehind before tokens) :
    p.2 ∈ tokens := by
  fun_induction itemsBehind before tokens with
  | case1 => cases h
  | case2 s before rest ih => exact List.mem_cons_of_mem _ (ih h)
  | case3 before t rest _ ih =>
    rcases List.mem_cons.1 h with rfl | h
    · exact List.mem_cons_self
    · exact List.mem_cons_of_mem _ (ih h)

theorem mem_of_mem_inPlace {p : Option Text × Token} (h : p ∈ inPlace tokens) : p.2 ∈ tokens :=
  (List.dropWhile_sublist _).subset (mem_of_mem_itemsBehind h)

theorem exists_mem_itemsBehind (before : Option Text) (ht : t.isCombinator = false)
    (h : t ∈ tokens) :
    ∃ b, (b, t) ∈ itemsBehind before tokens := by
  fun_induction itemsBehind before tokens with
  | case1 => cases h
  | case2 s before rest ih =>
    rcases List.mem_cons.1 h with rfl | h
    · cases ht
    · exact ih h
  | case3 before u rest _ ih =>
    rcases List.mem_cons.1 h with rfl | h
    · exact ⟨before, List.mem_cons_self⟩
    · obtain ⟨b, hb⟩ := ih h
      exact ⟨b, List.mem_cons_of_mem _ hb⟩

theorem leavesAll_eq_flatMap (tokens : List Token) : leavesAll tokens = tokens.flatMap leaves := by
  induction tokens with
  | nil => rfl
  | cons t tokens ih => rw [leavesAll, ih, List.flatMap_cons]

theorem leavesAll_itemsBehind (before : Option Text) (tokens : List Token) :
    leavesAll ((itemsBehind before tokens).map Prod.snd) = leavesAll tokens := by
  fun_induction itemsBehind before tokens with
  | case1 => rfl
  | case2 before s rest ih => rw [ih, leavesAll, leaves, List.nil_append]
  | case3 before t rest _ ih => rw [List.map_cons, leavesAll, leavesAll, ih]

theorem leavesAll_inPlace (tokens : List Token) :
    leavesAll ((inPlace tokens).map Prod.snd) = leavesAll tokens := by
  rw [inPlace, leavesAll_itemsBehind]
  induction tokens with
  | nil => rfl
  | cons t tokens ih =>
    cases ht : t.isCombinator with
    | true =>
      obtain ⟨s, rfl⟩ := eq_combinator ht
      rw [List.dropWhile_cons_of_pos ht, ih, leavesAll, leaves, List.nil_append]
    | false => rw [List.dropWhile_cons_of_neg (by simp [ht])]

theorem Alternates.exists_mem_inPlace (ha : Alternates tokens) (ht : t.isCombinator = false)
    (h : t ∈ tokens) :
    ∃ b, (b, t) ∈ inPlace tokens := by
  rw [ha.inPlace_eq]
  exact exists_mem_itemsBehind none ht h

section

variable {m : Type → Type} [Monad m] {α : Type}

def readEach (read : Token → Option Text → m α) (items : List (Option Text × Token)) : m (List α) :=
  items.mapM fun p => read p.2 p.1

variable [LawfulMonad m] {read : Token → Option Text → m α}

theorem readEach_cons (p : Option Text × Token) (items : List (Option Text × Token)) :
    readEach read (p :: items) = do
      let x ← read p.2 p.1
      let xs ← readEach read items
      return x :: xs := by
  rw [readEach, List.mapM_cons]
  rfl

theorem readEach_append (front behind : List (Option Text × Token)) :
    readEach read (front ++ behind) = do
      let xs ← readEach read front
      let ys ← readEach read behind
      return xs ++ ys :=
  List.mapM_append

variable [MonadExcept Error m]

theorem itemsAfter_behind (h : Alternates tokens) (before : Option Text) :
    Slot.itemsAfter before (tokens.map (slotOf read)) =
      readEach read (itemsBehind before tokens) := by
  induction h generalizing before with
  | last ht =>
    rw [List.map_singleton, slotOf_item ht, itemsBehind_item ht, readEach_cons, Slot.itemsAfter]
    simp [itemsBehind, readEach]
  | more ht _ ih =>
    rw [List.map_cons, List.map_cons, slotOf_item ht, itemsBehind_item ht, readEach_cons]
    simp only [slotOf, Slot.itemsAfter, ih, itemsBehind]

theorem exists_of_not_alternates_behind
    (hthrow : ∀ (e : Error) (f : List α → m (List α)), (throw e >>= f) = throw e) :
    ∀ (tokens : List Token) (before : Option Text), ¬ Alternates tokens →
      ∃ front behind s, itemsBehind before tokens = front ++ behind ∧
        Slot.itemsAfter before (tokens.map (slotOf read)) =
          readEach read front >>= fun _ => throw (.combinator s)
  | [], before, _ => ⟨[], [], before.getD [], rfl, by simp [Slot.itemsAfter, readEach]⟩
  | t :: rest, before, h => by
    cases ht : t.isCombinator with
    | true =>
      obtain ⟨s, rfl⟩ := eq_combinator ht
      exact ⟨[], _, s, rfl, by simp [slotOf, Slot.itemsAfter, readEach]⟩
    | false =>
      rw [itemsBehind_item ht, List.map_cons, slotOf_item ht]
      match rest, h with
      | [], h => exact absurd (.last ht) h
      | u :: rest, h =>
        cases hu : u.isCombinator with
        | true =>
          obtain ⟨s, rfl⟩ := eq_combinator hu
          obtain ⟨front, behind, s', hplace, hread⟩ :=
            exists_of_not_alternates_behind hthrow rest (some s) fun hr => h (.more ht hr)
          refine ⟨(before, t) :: front, behind, s', by rw [itemsBehind, hplace]; rfl, ?_⟩
          rw [readEach_cons]
          simp only [List.map_cons, slotOf, Slot.itemsAfter, hread, bind_assoc, hthrow, pure_bind]
        | false =>
          refine ⟨[(before, t)], _, [], rfl, ?_⟩
          rw [readEach_cons, List.map_cons, slotOf_item hu, Slot.itemsAfter]
          simp [readEach]

theorem itemsAfter_of_alternates (h : Alternates tokens) :
    Slot.itemsAfter none (tokens.map (slotOf read)) = readEach read (inPlace tokens) := by
  rw [h.inPlace_eq, itemsAfter_behind h]

theorem exists_of_not_alternates
    (hthrow : ∀ (e : Error) (f : List α → m (List α)), (throw e >>= f) = throw e)
    (h : ¬ Alternates tokens) :
    ∃ front behind s, inPlace tokens = front ++ behind ∧
      Slot.itemsAfter none (tokens.map (slotOf read)) =
        readEach read front >>= fun _ => throw (.combinator s) := by
  cases tokens with
  | nil => exact exists_of_not_alternates_behind hthrow [] none h
  | cons t rest =>
    cases ht : t.isCombinator with
    | true =>
      obtain ⟨s, rfl⟩ := eq_combinator ht
      exact ⟨[], _, s, rfl, by simp [slotOf, Slot.itemsAfter, readEach]⟩
    | false =>
      rw [inPlace_item ht]
      exact exists_of_not_alternates_behind hthrow (t :: rest) none h

end

/-- If anything is wrong, then with a combinator. -/
def OnlyCombinators {β : Type} (result : Except Error β) : Prop :=
  ∀ e, result = .error e → ∃ s, e = .combinator s

/-- How a text with these tokens is read: `Levels` are the lists of tokens that are gone through,
`Accepted` says that nothing is wrong with their items, and `Yields` what is read for them. -/
structure Sequenced {β : Type} (tokenized : Except Error (List Token))
    (Levels : List Token → List Token → Prop) (Accepted : List Token → Prop)
    (Yields : List Token → β → Prop) (result : Except Error β) : Prop where
  elements : ∀ x, result = .ok x → ∃ tokens, tokenized = .ok tokens ∧ Yields tokens x ∧
    (tokens = [] ∨ ∀ level, Levels tokens level → Alternates level)
  fails : ∀ tokens level, tokenized = .ok tokens → Levels tokens level → Misplaced level →
    ∃ e, result = .error e
  combinator : ∀ tokens level, tokenized = .ok tokens → Levels tokens level → Misplaced level →
    Accepted tokens → ∃ s, result = .error (.combinator s)

section

variable {β : Type} {tokenized : Except Error (List Token)}
  {Levels : List Token → List Token → Prop} {Accepted : List Token → Prop}
  {Yields : List Token → β → Prop} {result : Except Error β}

/-- Where combinators alternate none is misplaced, so that only what else may be wrong is left to
see. -/
theorem sequenced_of_alternates (hnil : ∀ level, Levels [] level → level = [])
    (elements : ∀ x, result = .ok x → ∃ tokens, tokenized = .ok tokens ∧ Yields tokens x ∧
      (tokens = [] ∨ ∀ level, Levels tokens level → Alternates level))
    (only : ∀ tokens, tokenized = .ok tokens → tokens ≠ [] → Accepted tokens →
      OnlyCombinators result) :
    Sequenced tokenized Levels Accepted Yields result := by
  have fails : ∀ tokens level, tokenized = .ok tokens → Levels tokens level → Misplaced level →
      ∃ e, result = .error e := by
    intro tokens level ht hl hm
    cases hr : result with
    | error e => exact ⟨e, rfl⟩
    | ok x =>
      obtain ⟨tokens', ht', -, h⟩ := elements x hr
      obtain rfl : tokens = tokens' := Except.ok.inj (ht.symm.trans ht')
      rcases h with rfl | h
      · exact absurd (hnil level hl) hm.ne_nil
      · exact absurd hm (h level hl).not_misplaced
  refine ⟨elements, fails, fun tokens level ht hl hm ha => ?_⟩
  obtain ⟨e, he⟩ := fails tokens level ht hl hm
  have hne : tokens ≠ [] := by
    rintro rfl
    exact hm.ne_nil (hnil level hl)
  obtain ⟨s, rfl⟩ := only tokens ht hne ha e he
  exact ⟨s, he⟩

theorem Sequenced.imp {Accepted' : List Token → Prop} {Yields' : List Token → β → Prop}
    (h : Sequenced tokenized Levels Accepted Yields result)
    (ha : ∀ tokens, Accepted' tokens → Accepted tokens)
    (hy : ∀ tokens x, Yields tokens x → Yields' tokens x) :
    Sequenced tokenized Levels Accepted' Yields' result := by
  refine ⟨fun x hx => ?_, h.fails, fun tokens level ht hl hm hac => ?_⟩
  · obtain ⟨tokens, ht, hyields, halternates⟩ := h.elements x hx
    exact ⟨tokens, ht, hy tokens x hyields, halternates⟩
  · exact h.combinator tokens level ht hl hm (ha tokens hac)

end

section

variable {α : Type} {read : Token → Option Text → Except Error α} {xs : List α}
  {items : List (Option Text × Token)}

theorem throw_bind (e : Error) (f : List α → Except Error (List α)) :
    (throw e >>= f : Except Error (List α)) = throw e := rfl

theorem readEach_eq_ok_iff :
    readEach read items = .ok xs ↔ List.Forall₂ (fun p x => read p.2 p.1 = .ok x) items xs :=
  mapM_eq_ok_iff

theorem alternates_of_itemsAfter (h : Slot.itemsAfter none (tokens.map (slotOf read)) = .ok xs) :
    Alternates tokens ∧ List.Forall₂ (fun p x => read p.2 p.1 = .ok x) (inPlace tokens) xs := by
  by_cases ha : Alternates tokens
  · rw [itemsAfter_of_alternates ha] at h
    exact ⟨ha, readEach_eq_ok_iff.1 h⟩
  · obtain ⟨front, behind, s, -, hread⟩ := exists_of_not_alternates throw_bind ha
    rw [hread] at h
    obtain ⟨_, -, h⟩ := exists_of_bind_eq_ok h
    cases h

theorem alternates_of_items (h : Slot.items (tokens.map (slotOf read)) = .ok xs) :
    (tokens = [] ∨ Alternates tokens) ∧
      List.Forall₂ (fun p x => read p.2 p.1 = .ok x) (inPlace tokens) xs := by
  cases tokens with
  | nil =>
    cases h
    exact ⟨.inl rfl, .nil⟩
  | cons t rest =>
    obtain ⟨ha, hitems⟩ := alternates_of_itemsAfter h
    exact ⟨.inr ha, hitems⟩

theorem onlyCombinators_itemsAfter (h : OnlyCombinators (readEach read (inPlace tokens))) :
    OnlyCombinators (Slot.itemsAfter none (tokens.map (slotOf read))) := by
  by_cases ha : Alternates tokens
  · rw [itemsAfter_of_alternates ha]
    exact h
  · obtain ⟨front, behind, s, hplace, hread⟩ := exists_of_not_alternates throw_bind ha
    intro e he
    rw [hread] at he
    rcases error_or_exists_of_bind_eq_error he with he | ⟨_, -, he⟩
    · refine h e ?_
      rw [hplace, readEach_append, he]
      rfl
    · cases he
      exact ⟨s, rfl⟩

theorem onlyCombinators_items (h : OnlyCombinators (readEach read (inPlace tokens))) :
    OnlyCombinators (Slot.items (tokens.map (slotOf read))) := by
  cases tokens with
  | nil =>
    intro e he
    cases he
  | cons t rest => exact onlyCombinators_itemsAfter h

theorem onlyCombinators_readEach (h : ∀ p ∈ items, OnlyCombinators (read p.2 p.1)) :
    OnlyCombinators (readEach read items) := by
  induction items with
  | nil =>
    intro e he
    cases he
  | cons p items ih =>
    obtain ⟨hp, hitems⟩ := List.forall_mem_cons.1 h
    intro e he
    rw [readEach_cons] at he
    rcases error_or_exists_of_bind_eq_error he with he | ⟨x, -, he⟩
    · exact hp e he
    · rcases error_or_exists_of_bind_eq_error he with he | ⟨xs, -, he⟩
      · exact ih hitems e he
      · cases he

def Flat (tokens level : List Token) : Prop := level = tokens

theorem sequenced_items (read : Token → Option Text → Except Error α)
    (tokenized : Except Error (List Token)) :
    Sequenced tokenized Flat
      (fun tokens => ∀ p ∈ inPlace tokens, ∃ x, read p.2 p.1 = .ok x)
      (fun tokens xs => List.Forall₂ (fun p x => read p.2 p.1 = .ok x) (inPlace tokens) xs)
      (tokenized >>= fun tokens => Slot.items (tokens.map (slotOf read))) := by
  apply sequenced_of_alternates
  · exact fun level hl => hl
  · intro xs h
    obtain ⟨tokens, ht, h⟩ := exists_of_bind_eq_ok h
    obtain ⟨ha, hitems⟩ := alternates_of_items h
    refine ⟨tokens, ht, hitems, ha.imp_right fun ha level hl => ?_⟩
    rw [hl]
    exact ha
  · intro tokens ht _ haccepted
    rw [ht]
    refine onlyCombinators_items (onlyCombinators_readEach fun p hp e he => ?_)
    obtain ⟨x, hx⟩ := haccepted p hp
    rw [hx] at he
    cases he

end

end Token

end QueryShorthand
