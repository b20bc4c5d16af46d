import QueryShorthand.Proofs.Sql.Fragment

/-! Cutting SQL at the connectives of its top level. Phrases are not cut; what a connective joins is
cut into what was joined. -/
namespace QueryShorthand.Sql

variable {d : Dialect}

inductive Connective where
  | or
  | and
  deriving DecidableEq, Repr

def Connective.word : Connective → Text
  | or => "OR".toList
  | and => "AND".toList

def Connective.separator (k : Connective) : Text := ' ' :: (k.word ++ [' '])

def topCells (t : Text) : List Cell := t.map fun c => (c, true)

/-- What follows `word`, which stands at the top level with a blank on either side. -/
def behind? (word : Text) (l : List Cell) : Option (List Cell) :=
  let lead := topCells (' ' :: (word ++ [' ']))
  if lead.isPrefixOf l then some (l.drop lead.length) else none

def lead (t : Text) : List Text → List Text
  | [] => [t]
  | part :: parts => (t ++ part) :: parts

theorem behind?_eq_some_iff {word : Text} {l r : List Cell} :
    behind? word l = some r ↔ l = topCells (' ' :: (word ++ [' '])) ++ r := by
  unfold behind?
  dsimp only
  split
  · next h =>
    obtain ⟨s, rfl⟩ := List.isPrefixOf_iff_prefix.1 h
    simp
  · next h =>
    refine ⟨by simp, ?_⟩
    rintro rfl
    exact absurd (List.isPrefixOf_iff_prefix.2 (List.prefix_append _ _)) h

theorem length_lt_of_behind? {word : Text} {l r : List Cell} (h : behind? word l = some r) :
    r.length < l.length := by
  rw [behind?_eq_some_iff.1 h]
  simp [topCells]
  omega

/-- A BETWEEN starts here, whose own AND is still to come. -/
def Connective.awaits (k : Connective) (l : List Cell) : Bool :=
  k == .and && (behind? "BETWEEN".toList l).isSome

/-- The parts between connectives `k`. The AND that comes next belongs to a BETWEEN if `low`. -/
def splitFrom (k : Connective) (low : Bool) (l : List Cell) : List Text :=
  match l with
  | [] => [[]]
  | x :: r =>
    match _behind : behind? k.word (x :: r) with
    | some rest =>
      if low then lead k.separator (splitFrom k false rest) else [] :: splitFrom k false rest
    | none => lead [x.1] (splitFrom k (low || k.awaits (x :: r)) r)
termination_by l.length
decreasing_by
  · exact length_lt_of_behind? _behind
  · exact length_lt_of_behind? _behind
  · simp

/-- The parts of a text between its connectives outside literals, names and parentheses; the AND
within a BETWEEN does not count. -/
def split (d : Dialect) (k : Connective) (t : Text) : List Text := splitFrom k false (cells d t)

variable {k : Connective} {low : Bool} {l r w : List Cell}

theorem lead_nil {parts : List Text} (h : parts ≠ []) : lead [] parts = parts := by
  cases parts with
  | nil => exact absurd rfl h
  | cons => rfl

theorem lead_append (s t : Text) (parts : List Text) :
    lead (s ++ t) parts = lead s (lead t parts) := by
  cases parts <;> simp [lead]

theorem splitFrom_ne_nil : splitFrom k low l ≠ [] := by
  fun_cases splitFrom k low l <;> simp [lead]
  all_goals split <;> simp

theorem behind?_of_ne {word : Text} {x : Cell} (h : x ≠ (' ', true)) :
    behind? word (x :: r) = none := by
  cases hb : behind? word (x :: r) with
  | none => rfl
  | some rest =>
    rw [behind?_eq_some_iff] at hb
    exact absurd (List.cons.inj hb).1 h

theorem splitFrom_append (h : (' ', true) ∉ w) :
    splitFrom k low (w ++ l) = lead (w.map Prod.fst) (splitFrom k low l) := by
  induction w with
  | nil => exact (lead_nil splitFrom_ne_nil).symm
  | cons x w ih =>
    rw [List.mem_cons, not_or] at h
    have hx (word : Text) : behind? word (x :: (w ++ l)) = none := behind?_of_ne (Ne.symm h.1)
    rw [List.cons_append, splitFrom]
    split
    · next rest hr =>
      rw [hx] at hr
      cases hr
    · rw [Connective.awaits, hx, Option.isSome_none, Bool.and_false, Bool.or_false, ih h.2]
      exact (lead_append [x.1] _ _).symm

def Open (l : List Cell) : Prop := l = [] ∨ ∃ r, l = (' ', true) :: r

theorem eq_of_append_eq {w v : List Cell} (hw : (' ', true) ∉ w) (hv : (' ', true) ∉ v)
    (hl : Open l) (h : w ++ l = v ++ (' ', true) :: r) : w = v := by
  induction w generalizing v with
  | nil =>
    cases v with
    | nil => rfl
    | cons x v =>
      rcases hl with rfl | ⟨l, rfl⟩
      · cases h
      · rw [List.nil_append, List.cons_append, List.cons.injEq] at h
        exact absurd (h.1 ▸ List.mem_cons_self) hv
  | cons x w ih =>
    cases v with
    | nil =>
      rw [List.nil_append, List.cons_append, List.cons.injEq] at h
      exact absurd (h.1 ▸ List.mem_cons_self) hw
    | cons y v =>
      rw [List.cons_append, List.cons_append, List.cons.injEq] at h
      rw [h.1, ih (fun hm => hw (List.mem_cons_of_mem _ hm))
        (fun hm => hv (List.mem_cons_of_mem _ hm)) h.2]

/-- Behind a blank a separator is found only if it is the very word that follows. -/
theorem behind?_of_word {word : Text} (hb : ' ' ∉ word) (hw : (' ', true) ∉ w)
    (hne : w.map Prod.fst ≠ word) (hl : Open l) :
    behind? word ((' ', true) :: (w ++ l)) = none := by
  cases h : behind? word ((' ', true) :: (w ++ l)) with
  | none => rfl
  | some rest =>
    rw [behind?_eq_some_iff] at h
    have hv : (' ', true) ∉ topCells word := by simpa [topCells] using hb
    have heq : w ++ l = topCells word ++ (' ', true) :: rest := by
      simpa [topCells] using h
    have := eq_of_append_eq hw hv hl heq
    exact absurd (by simp [this, topCells, Function.comp_def]) hne

theorem splitFrom_blank (hw : (' ', true) ∉ w) (hk : w.map Prod.fst ≠ k.word)
    (hb : k = .and → w.map Prod.fst ≠ "BETWEEN".toList) (hl : Open l) :
    splitFrom k low ((' ', true) :: (w ++ l)) =
      lead (' ' :: w.map Prod.fst) (splitFrom k low l) := by
  have hn : behind? k.word ((' ', true) :: (w ++ l)) = none :=
    behind?_of_word (by cases k <;> decide) hw hk hl
  have hlow : k.awaits ((' ', true) :: (w ++ l)) = false := by
    cases k with
    | or => rfl
    | and =>
      rw [Connective.awaits, behind?_of_word (by decide) hw (hb rfl) hl]
      rfl
  rw [splitFrom]
  split
  · next rest hr =>
    rw [hn] at hr
    cases hr
  · rw [hlow, Bool.or_false, splitFrom_append hw]
    exact (lead_append [' '] _ _).symm

theorem splitFrom_separator : splitFrom k low (topCells k.separator ++ l) =
    if low then lead k.separator (splitFrom k false l) else [] :: splitFrom k false l := by
  have hb : behind? k.word (topCells k.separator ++ l) = some l := behind?_eq_some_iff.2 rfl
  have hcons : topCells k.separator ++ l =
      (' ', true) :: (topCells (k.word ++ [' ']) ++ l) := rfl
  rw [hcons] at hb ⊢
  rw [splitFrom]
  split
  · next rest hr =>
    rw [hb] at hr
    cases hr
    rfl
  · next hr =>
    rw [hb] at hr
    cases hr

theorem splitFrom_between : splitFrom .and low ((' ', true) :: (topCells "BETWEEN ".toList ++ l)) =
    lead " BETWEEN".toList (splitFrom .and true ((' ', true) :: l)) := by
  have hb : behind? "BETWEEN".toList ((' ', true) :: (topCells "BETWEEN ".toList ++ l)) = some l :=
    behind?_eq_some_iff.2 rfl
  have hn : behind? Connective.and.word ((' ', true) :: (topCells "BETWEEN ".toList ++ l)) = none :=
    behind?_of_word (w := topCells "BETWEEN".toList) (by decide) (by decide) (by decide)
      (.inr ⟨l, rfl⟩)
  have hcells : topCells "BETWEEN ".toList ++ l = topCells "BETWEEN".toList ++ (' ', true) :: l :=
    rfl
  rw [splitFrom]
  split
  · next rest hr =>
    rw [hn] at hr
    cases hr
  · rw [Connective.awaits, hb, Option.isSome_some, Bool.and_true, beq_self_eq_true, Bool.or_true,
      hcells, splitFrom_append (by decide)]
    exact (lead_append [' '] "BETWEEN".toList _).symm

/-- Words with a blank between them, where a BETWEEN has its AND. -/
inductive Phrase (d : Dialect) : Text → Prop where
  | word {t : Text} (h : Word d t) : Phrase d t
  | snoc {t u : Text} (h : Phrase d t) (hu : Word d u) : Phrase d (t ++ ' ' :: u)
  | between {t low high : Text} (h : Phrase d t) (hl : Word d low) (hh : Word d high) :
      Phrase d (t ++ (" BETWEEN ".toList ++ (low ++ (" AND ".toList ++ high))))

/-- Connectives `k` do not cut the text, not even behind a blank and in front of more words. -/
structure Uncut (k : Connective) (d : Dialect) (t : Text) : Prop where
  alike : Alike d t t
  keeps : ∀ {p : Place} {s l : List Cell}, s = [] ∨ s = [(' ', true)] → Settled 0 p → Open l →
    splitFrom k false (s ++ (cellsFrom d p t ++ l)) =
      lead (s.map Prod.fst ++ t) (splitFrom k false l)

theorem isTop_of_glyph {n : Nat} {p : Place} {c : Char} (hp : Settled n p) (hn : n = 0)
    (hc : isGlyph c = true) : isTop d p c = true := by
  simp only [isGlyph, Bool.and_eq_true, bne_iff_ne] at hc
  obtain ⟨⟨⟨⟨⟨hq, hd⟩, hb⟩, ho⟩, hcl⟩, -⟩ := hc
  have hname : c ≠ d.nameQuote := by cases d <;> simpa [Dialect.nameQuote]
  obtain ⟨hdepth, hmode⟩ := hp
  rcases hmode with hm | hm <;> simp [isTop, hdepth, hn, hm, hq, hname, ho, hcl]

theorem isTop_blank {p : Place} (hp : Settled 0 p) : isTop d p ' ' = true := by
  obtain ⟨hdepth, hm | hm⟩ := hp <;> cases d <;> simp [isTop, hdepth, hm, Dialect.nameQuote]

theorem cellsFrom_blank {p : Place} (hp : Settled 0 p) (t : Text) :
    cellsFrom d p (' ' :: t) = (' ', true) :: cellsFrom d ⟨.code, 0⟩ t := by
  rw [cellsFrom, isTop_blank hp, next_of_blank hp]

theorem cellsFrom_plain {p : Place} (hp : Settled 0 p) {t : Text}
    (h : (t.all fun c => c == ' ' || isGlyph c) = true) : cellsFrom d p t = topCells t := by
  induction t generalizing p with
  | nil => rfl
  | cons c t ih =>
    simp only [List.all_cons, Bool.and_eq_true, Bool.or_eq_true, beq_iff_eq] at h
    obtain ⟨rfl | hc, ht⟩ := h
    · rw [cellsFrom_blank hp, ih settled_code ht]
      rfl
    · rw [cellsFrom, isTop_of_glyph hp rfl hc, next_of_glyph hp hc, ih settled_code ht]
      rfl

theorem Word.fst_ne {u : Text} (h : Word d u) (p : Place) (k : Connective) :
    (cellsFrom d p u).map Prod.fst ≠ k.word ∧
      (cellsFrom d p u).map Prod.fst ≠ "BETWEEN".toList := by
  have hf := h.free
  rw [map_fst_cellsFrom]
  constructor
  · rintro rfl
    cases k <;> simp [isConnective, Connective.word] at hf
  · rintro rfl
    simp [isConnective] at hf

theorem Word.splitFrom_blank {u : Text} (h : Word d u) {p : Place} (hp : Settled 0 p)
    (hl : Open l) :
    splitFrom k low ((' ', true) :: (cellsFrom d p u ++ l)) =
      lead (' ' :: u) (splitFrom k low l) := by
  obtain ⟨hk, hb⟩ := h.fst_ne p k
  rw [Sql.splitFrom_blank (h.compact.no_top_blank hp) hk (fun _ => hb) hl, map_fst_cellsFrom]

theorem Uncut.word {u : Text} (h : Word d u) : Uncut k d u := by
  refine ⟨h.alike, fun {p s l} hs hp hl => ?_⟩
  rcases hs with rfl | rfl
  · rw [List.nil_append, splitFrom_append (h.compact.no_top_blank hp), map_fst_cellsFrom]
    rfl
  · exact h.splitFrom_blank hp hl

theorem Uncut.snoc {t u : Text} (h : Uncut k d t) (hu : Word d u) : Uncut k d (t ++ ' ' :: u) := by
  refine ⟨h.alike.append (.cons_blank hu.alike), fun {p s l} hs hp hl => ?_⟩
  rw [cellsFrom_append, cellsFrom_blank (h.alike.settled hp), List.append_assoc, List.cons_append,
    h.keeps hs hp (.inr ⟨_, rfl⟩), hu.splitFrom_blank settled_code hl, ← lead_append,
    List.append_assoc]

/-- Looking for an OR, any other word between two texts does not cut them. -/
theorem Uncut.beside {t u w : Text} (h : Uncut .or d t) (hw : w.all isGlyph = true)
    (hne : w ≠ "OR".toList) (h' : Uncut .or d u) : Uncut .or d (t ++ ' ' :: (w ++ ' ' :: u)) := by
  have hcompact : Compact d w := .of_glyphs hw
  refine ⟨h.alike.append (.cons_blank (hcompact.alike.append (.cons_blank h'.alike))),
    fun {p s l} hs hp hl => ?_⟩
  have hplace := hcompact.alike.settled (settled_code (n := 0))
  have hrest := h'.keeps (s := [(' ', true)]) (.inr rfl) (settled_code (n := 0)) hl
  rw [List.singleton_append] at hrest
  have hopen : Open ((' ', true) :: (cellsFrom d ⟨.code, 0⟩ u ++ l)) := .inr ⟨_, rfl⟩
  have hword : splitFrom .or false ((' ', true) :: (cellsFrom d ⟨.code, 0⟩ w ++
      (' ', true) :: (cellsFrom d ⟨.code, 0⟩ u ++ l))) = lead (' ' :: w) (splitFrom .or false
        ((' ', true) :: (cellsFrom d ⟨.code, 0⟩ u ++ l))) := by
    have hfst : (cellsFrom d ⟨.code, 0⟩ w).map Prod.fst = w := map_fst_cellsFrom w
    have hblank := hcompact.no_top_blank (settled_code (n := 0))
    rw [splitFrom_blank hblank (by rwa [hfst]) (by simp) hopen, hfst]
  rw [cellsFrom_append, cellsFrom_blank (h.alike.settled hp), cellsFrom_append,
    cellsFrom_blank hplace]
  simp only [List.append_assoc, List.cons_append]
  rw [h.keeps hs hp (.inr ⟨_, rfl⟩), hword, hrest, ← lead_append, ← lead_append]
  simp

theorem Uncut.between {t low high : Text} (h : Uncut k d t) (hl : Word d low) (hh : Word d high) :
    Uncut k d (t ++ (" BETWEEN ".toList ++ (low ++ (" AND ".toList ++ high)))) := by
  cases k with
  | or =>
    have hlow := h.beside (w := "BETWEEN".toList) (by decide) (by decide) (.word hl)
    have hhigh := hlow.beside (w := "AND".toList) (by decide) (by decide) (.word hh)
    simpa using hhigh
  | and =>
    have hplain {t : Text} (ht : (t.all fun c => c == ' ' || isGlyph c) = true) : Alike d t t :=
      .of_plain ht
    refine ⟨h.alike.append ((hplain (by decide)).append
      (hl.alike.append ((hplain (by decide)).append hh.alike))), fun {p s l} hs hp hopen => ?_⟩
    have ht := h.alike.settled hp
    have hb := (hplain (t := " BETWEEN ".toList) (by decide)).settled ht
    have hlow := hl.alike.settled hb
    have ha := (hplain (t := " AND ".toList) (by decide)).settled hlow
    rw [cellsFrom_append, cellsFrom_append, cellsFrom_append, cellsFrom_append,
      cellsFrom_plain ht (t := " BETWEEN ".toList) (by decide),
      cellsFrom_plain hlow (t := " AND ".toList) (by decide)]
    simp only [List.append_assoc]
    have hstart (l : List Cell) : topCells " BETWEEN ".toList ++ l =
        (' ', true) :: (topCells "BETWEEN ".toList ++ l) := rfl
    have hand (l : List Cell) : Open (topCells " AND ".toList ++ l) := .inr ⟨_, rfl⟩
    have hsep : topCells " AND ".toList = topCells Connective.and.separator := rfl
    rw [h.keeps hs hp (.inr ⟨_, hstart _⟩), hstart, splitFrom_between,
      hl.splitFrom_blank hb (hand _),
      hsep, splitFrom_separator, if_pos rfl, splitFrom_append (hh.compact.no_top_blank ha),
      map_fst_cellsFrom]
    simp [← lead_append, Connective.separator, Connective.word]

theorem Phrase.uncut {t : Text} (h : Phrase d t) : Uncut k d t := by
  induction h with
  | word h => exact .word h
  | snoc _ hu ih => exact ih.snoc hu
  | between _ hl hh ih => exact ih.between hl hh

theorem split_of_uncut {t : Text} (h : Uncut k d t) : split d k t = [t] := by
  have hk := h.keeps (p := .start) (s := []) (l := []) (.inl rfl) settled_code (.inl rfl)
  simpa [split, cells, splitFrom, lead] using hk

theorem splitFrom_joined {ts : List Text} (hne : ts ≠ []) (h : ∀ t ∈ ts, Uncut k d t) {p : Place}
    (hp : Settled 0 p) : splitFrom k false (cellsFrom d p (Text.joined k.separator ts)) = ts := by
  have hsep : (k.separator.all fun c => c == ' ' || isGlyph c) = true := by cases k <;> decide
  induction ts generalizing p with
  | nil => exact absurd rfl hne
  | cons t ts ih =>
    have ht := h t List.mem_cons_self
    cases ts with
    | nil =>
      have hk := ht.keeps (s := []) (l := []) (.inl rfl) hp (.inl rfl)
      simpa [Text.joined, splitFrom, lead] using hk
    | cons u us =>
      have hplace := ht.alike.settled hp
      have hopen : Open (topCells k.separator ++
          cellsFrom d (place d (place d p t) k.separator) (Text.joined k.separator (u :: us))) :=
        .inr ⟨_, rfl⟩
      have hjoined : Text.joined k.separator (t :: u :: us) =
          t ++ (k.separator ++ Text.joined k.separator (u :: us)) := by
        simp [Text.joined, List.intercalate]
      rw [hjoined, cellsFrom_append, cellsFrom_append, cellsFrom_plain hplace hsep,
        ← List.nil_append (_ ++ _), ht.keeps (.inl rfl) hp hopen, splitFrom_separator,
        ih (by simp) (fun x hx => h x (List.mem_cons_of_mem _ hx))
          ((Alike.of_plain hsep).settled hplace)]
      simp [lead]

theorem split_joined {ts : List Text} (hne : ts ≠ []) (h : ∀ t ∈ ts, Uncut k d t) :
    split d k (Text.joined k.separator ts) = ts := splitFrom_joined hne h settled_code

theorem uncut_joined_and {ts : List Text} (hne : ts ≠ []) (h : ∀ t ∈ ts, Uncut .or d t) :
    Uncut .or d (Text.joined " AND ".toList ts) := by
  induction ts with
  | nil => exact absurd rfl hne
  | cons t ts ih =>
    have ht := h t List.mem_cons_self
    cases ts with
    | nil => simpa [Text.joined] using ht
    | cons u us =>
      have hrest := ih (by simp) fun x hx => h x (List.mem_cons_of_mem _ hx)
      have hjoined : Text.joined " AND ".toList (t :: u :: us) =
          t ++ ' ' :: ("AND".toList ++ ' ' :: Text.joined " AND ".toList (u :: us)) := by
        simp [Text.joined, List.intercalate]
      rw [hjoined]
      exact ht.beside (by decide) (by decide) hrest

end QueryShorthand.Sql
