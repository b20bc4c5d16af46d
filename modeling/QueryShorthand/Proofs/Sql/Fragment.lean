import Mathlib.Data.List.Forall2
import QueryShorthand.Proofs.Sql.Reading

/-! Fragments of SQL in which all that opens also closes. Two are alike if they differ only inside
literals, and one is compact if no blank stands at its top level. Both are grammars, so a compiled
text is shown to belong to one by following how it is built. -/
namespace QueryShorthand.Sql

/-- A character that neither opens nor closes anything and is no blank. -/
def isGlyph (c : Char) : Bool :=
  c != '\'' && c != '"' && c != '\x60' && c != '(' && c != ')' && c != ' '

variable {d : Dialect}

inductive Alike (d : Dialect) : Text → Text → Prop where
  | nil : Alike d [] []
  | blank : Alike d [' '] [' ']
  | glyph {c : Char} (h : isGlyph c = true) : Alike d [c] [c]
  | name (t : Text) : Alike d (d.quoteName t) (d.quoteName t)
  | literal (t u : Text) : Alike d (d.quoteText t) (d.quoteText u)
  | parens {t u : Text} (h : Alike d t u) : Alike d ('(' :: (t ++ [')'])) ('(' :: (u ++ [')']))
  | append {t u t' u' : Text} (h : Alike d t u) (h' : Alike d t' u') : Alike d (t ++ t') (u ++ u')

inductive Compact (d : Dialect) : Text → Prop where
  | nil : Compact d []
  | glyph {c : Char} (h : isGlyph c = true) : Compact d [c]
  | name (t : Text) : Compact d (d.quoteName t)
  | literal (t : Text) : Compact d (d.quoteText t)
  | parens {t : Text} (h : Alike d t t) : Compact d ('(' :: (t ++ [')']))
  | append {t u : Text} (h : Compact d t) (h' : Compact d u) : Compact d (t ++ u)

theorem Compact.alike {t : Text} (h : Compact d t) : Alike d t t := by
  induction h with
  | nil => exact .nil
  | glyph h => exact .glyph h
  | name t => exact .name t
  | literal t => exact .literal t t
  | parens h => exact .parens h
  | append _ _ ih ih' => exact .append ih ih'

theorem Alike.cons_glyph {c : Char} (hc : isGlyph c = true) {t u : Text} (h : Alike d t u) :
    Alike d (c :: t) (c :: u) := .append (.glyph hc) h

theorem Alike.cons_blank {t u : Text} (h : Alike d t u) : Alike d (' ' :: t) (' ' :: u) :=
  .append .blank h

theorem Compact.cons_glyph {c : Char} (hc : isGlyph c = true) {t : Text} (h : Compact d t) :
    Compact d (c :: t) := .append (.glyph hc) h

theorem Alike.of_plain {t : Text} (h : (t.all fun c => c == ' ' || isGlyph c) = true) :
    Alike d t t := by
  induction t with
  | nil => exact .nil
  | cons c r ih =>
    simp only [List.all_cons, Bool.and_eq_true, Bool.or_eq_true, beq_iff_eq] at h
    rcases h with ⟨rfl | hc, hr⟩
    · exact .cons_blank (ih hr)
    · exact .cons_glyph hc (ih hr)

theorem Compact.of_glyphs {t : Text} (h : t.all isGlyph = true) : Compact d t := by
  induction t with
  | nil => exact .nil
  | cons c r ih =>
    simp only [List.all_cons, Bool.and_eq_true] at h
    exact .cons_glyph h.1 (ih h.2)

theorem Alike.call {f t u : Text} (hf : f.all isGlyph = true) (h : Alike d t u) :
    Alike d (f ++ '(' :: (t ++ [')'])) (f ++ '(' :: (u ++ [')'])) :=
  .append (Compact.of_glyphs hf).alike (.parens h)

theorem Compact.call {f t : Text} (hf : f.all isGlyph = true) (h : Alike d t t) :
    Compact d (f ++ '(' :: (t ++ [')'])) :=
  .append (.of_glyphs hf) (.parens h)

theorem Alike.joined {separator : Text} (hs : Alike d separator separator) {ts us : List Text}
    (h : List.Forall₂ (Alike d) ts us) :
    Alike d (Text.joined separator ts) (Text.joined separator us) := by
  induction h with
  | nil => exact .nil
  | @cons t u ts us h hr ih =>
    cases hr with
    | nil => simpa [Text.joined, List.intercalate] using h
    | cons => simpa [Text.joined, List.intercalate] using h.append (hs.append ih)

/-- The words that join conditions, and the one that takes the next AND for itself. -/
def isConnective (t : Text) : Bool :=
  t == "OR".toList || t == "AND".toList || t == "BETWEEN".toList

theorem isConnective_eq_false {t : Text} {c : Char} (hc : c ∈ t) (ha : c.isAlpha = false) :
    isConnective t = false := by
  by_contra h
  simp only [isConnective, Bool.not_eq_false, Bool.or_eq_true, beq_iff_eq] at h
  have hall : t.all Char.isAlpha = true := by rcases h with (rfl | rfl) | rfl <;> decide
  rw [List.all_eq_true] at hall
  simp [hall c hc] at ha

structure Word (d : Dialect) (t : Text) : Prop where
  compact : Compact d t
  free : isConnective t = false

theorem Word.of_glyphs {t : Text} (h : t.all isGlyph = true) (hf : isConnective t = false) :
    Word d t := ⟨.of_glyphs h, hf⟩

theorem Word.literal (t : Text) : Word d (d.quoteText t) := by
  refine ⟨.literal t, isConnective_eq_false (c := '\'') ?_ (by decide)⟩
  cases d <;> simp [Dialect.quoteText]

theorem nameQuote_mem (t : Text) : d.nameQuote ∈ d.quoteName t := by
  simp [Dialect.quoteName]

theorem Word.name (t : Text) : Word d (d.quoteName t) :=
  ⟨.name t, isConnective_eq_false (nameQuote_mem t) (by cases d <;> decide)⟩

theorem Word.call {f t : Text} (hf : f.all isGlyph = true) (h : Alike d t t) :
    Word d (f ++ '(' :: (t ++ [')'])) :=
  ⟨.call hf h, isConnective_eq_false (c := '(') (by simp) (by decide)⟩

theorem Word.alike {t : Text} (h : Word d t) : Alike d t t := h.compact.alike

theorem next_of_glyph {n : Nat} {p : Place} (h : Settled n p) {c : Char} (hc : isGlyph c = true) :
    next d p c = ⟨.code, n⟩ := by
  simp only [isGlyph, Bool.and_eq_true, bne_iff_ne] at hc
  obtain ⟨⟨⟨⟨⟨hq, hd⟩, hb⟩, ho⟩, hcl⟩, -⟩ := hc
  have hn : c ≠ d.nameQuote := by cases d <;> simpa [Dialect.nameQuote]
  rw [next_of_settled h hq]
  simp [nextInCode, hq, hn, ho, hcl]

theorem next_of_blank {n : Nat} {p : Place} (h : Settled n p) : next d p ' ' = ⟨.code, n⟩ := by
  rw [next_of_settled h (by decide)]
  cases d <;> rfl

theorem next_of_opening {n : Nat} {p : Place} (h : Settled n p) :
    next d p '(' = ⟨.code, n + 1⟩ := by
  rw [next_of_settled h (by decide)]
  cases d <;> rfl

theorem next_of_closing {n : Nat} {p : Place} (h : Settled (n + 1) p) :
    next d p ')' = ⟨.code, n⟩ := by
  rw [next_of_settled h (by decide)]
  cases d <;> rfl

/-- Reading two fragments that are alike ends at the same place, outside quotes and with no more and
no fewer parentheses open than before, and leaves the same skeleton. -/
theorem Alike.reads_same {t u : Text} (h : Alike d t u) {n : Nat} {p : Place} (hp : Settled n p) :
    Settled n (place d p t) ∧ place d p t = place d p u ∧
    skeletonFrom d p t = skeletonFrom d p u := by
  induction h generalizing n p with
  | nil => exact ⟨hp, rfl, rfl⟩
  | blank => exact ⟨by simp [next_of_blank hp, settled_code], rfl, rfl⟩
  | glyph hc => exact ⟨by simp [next_of_glyph hp hc, settled_code], rfl, rfl⟩
  | name t => exact ⟨by rw [place_quoteName hp]; exact settled_code, rfl, rfl⟩
  | literal t u =>
    refine ⟨?_, ?_, ?_⟩
    · rw [place_quoteText hp]
      exact settled_quote
    · rw [place_quoteText hp, place_quoteText hp]
    · rw [skeletonFrom_quoteText hp, skeletonFrom_quoteText hp]
  | @parens t u _ ih =>
    have hin : Settled (n + 1) ⟨.code, n + 1⟩ := settled_code
    obtain ⟨hs, he, hk⟩ := ih hin
    simp only [place_cons, next_of_opening hp, place_append, place_nil, skeletonFrom,
      skeletonFrom_append, ← he, hk, next_of_closing hs, and_true]
    exact settled_code
  | append _ _ ih ih' =>
    obtain ⟨hs, he, hk⟩ := ih hp
    obtain ⟨hs', he', hk'⟩ := ih' hs
    refine ⟨by simpa using hs', ?_, ?_⟩
    · rw [place_append, place_append, ← he, he']
    · rw [skeletonFrom_append, skeletonFrom_append, hk, ← he, hk']

theorem Alike.skeleton_eq {t u : Text} (h : Alike d t u) : skeleton d t = skeleton d u :=
  (h.reads_same settled_code).2.2

theorem Alike.settled {t u : Text} (h : Alike d t u) {n : Nat} {p : Place} (hp : Settled n p) :
    Settled n (place d p t) := (h.reads_same hp).1

theorem Alike.covered {t u : Text} (h : Alike d t u) {n : Nat} {p : Place}
    (hp : Settled (n + 1) p) :
    Covered (cellsFrom d p t) := by
  induction h generalizing n p with
  | nil => simp [cellsFrom, Covered]
  | blank => simp [cellsFrom, Covered, isTop_of_depth, hp.depth]
  | glyph => simp [cellsFrom, Covered, isTop_of_depth, hp.depth]
  | name t => exact covered_quoteName hp t
  | literal t u => exact covered_quoteText hp t
  | @parens t u h ih =>
    rw [cellsFrom, next_of_opening hp, cellsFrom_append, covered_cons]
    refine ⟨isTop_of_depth (by simp [hp.depth]), (ih settled_code).append ?_⟩
    have hs := h.settled (settled_code (n := n + 1 + 1))
    simp [cellsFrom, Covered, isTop_of_depth, hs.depth]
  | append h _ ih ih' =>
    rw [cellsFrom_append]
    exact (ih hp).append (ih' (h.settled hp))

theorem Compact.no_top_blank {t : Text} (h : Compact d t) {n : Nat} {p : Place} (hp : Settled n p) :
    (' ', true) ∉ cellsFrom d p t := by
  have not_mem {l : List Cell} (hl : Covered l) : (' ', true) ∉ l :=
    fun hm => by simpa using hl _ hm
  induction h generalizing p with
  | nil => simp [cellsFrom]
  | glyph hc =>
    simp only [cellsFrom, List.mem_singleton, Prod.mk.injEq, not_and]
    rintro rfl
    simp [isGlyph] at hc
  | name t => exact not_mem (covered_quoteName hp t)
  | literal t => exact not_mem (covered_quoteText hp t)
  | @parens t h =>
    apply not_mem
    rw [cellsFrom, next_of_opening hp, cellsFrom_append, covered_cons]
    have hs := h.settled (settled_code (n := n + 1))
    refine ⟨by simp [isTop], (h.covered settled_code).append ?_⟩
    simp [cellsFrom, Covered, isTop]
  | append h _ ih ih' =>
    rw [cellsFrom_append, List.mem_append, not_or]
    exact ⟨ih hp, ih' (h.alike.settled hp)⟩

end QueryShorthand.Sql
