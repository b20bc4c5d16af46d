import QueryShorthand.Proofs.Condition.Rebinding
import QueryShorthand.Proofs.Sql.Connective

/-! The SQL of a clip is made of words. Only a BETWEEN brings a connective, its own AND. -/
namespace QueryShorthand

open Sql (Alike Compact Phrase Word isGlyph)

variable {ctx : Context} {d : Dialect}

namespace Sql

theorem Word.of_compact {t : Text} (h : Compact d t) {c : Char} (hc : c ∈ t)
    (ha : c.isAlpha = false) :
    Word d t := ⟨h, isConnective_eq_false hc ha⟩

theorem Phrase.alike {t : Text} (h : Phrase d t) : Alike d t t := by
  induction h with
  | word h => exact h.alike
  | snoc _ hu ih => exact ih.append (.cons_blank hu.alike)
  | between _ hl hh ih =>
    have between : Alike d " BETWEEN ".toList " BETWEEN ".toList := .of_plain (by decide)
    have and : Alike d " AND ".toList " AND ".toList := .of_plain (by decide)
    exact ih.append (between.append (hl.alike.append (and.append hh.alike)))

theorem Phrase.congr {t u : Text} (h : Phrase d t) (hu : u = t) : Phrase d u := hu ▸ h

theorem Phrase.append {t u : Text} (h : Phrase d t) (h' : Phrase d u) :
    Phrase d (t ++ ' ' :: u) := by
  induction h' with
  | word hu => exact h.snoc hu
  | snoc _ hu ih => exact (ih.snoc hu).congr (by simp)
  | between _ hl hh ih => exact (ih.between hl hh).congr (by simp)

theorem Phrase.glyphs {t : Text} (h : Phrase d t) (u : Text) (hu : u.all isGlyph = true)
    (hf : isConnective u = false) : Phrase d (t ++ ' ' :: u) := h.snoc (.of_glyphs hu hf)

theorem Phrase.negate {t : Text} (h : Alike d t t) : Phrase d (d.negate t) := by
  have not : Phrase d "NOT".toList := .word (.of_glyphs (by decide) (by decide))
  have parens : Word d ('(' :: (t ++ [')'])) :=
    .of_compact (.parens h) List.mem_cons_self (by decide)
  cases d with
  | mysql => exact .word (.call (f := ['!']) (by decide) h)
  | postgres => exact (not.snoc parens).congr (by simp [Dialect.negate])
  | sqlite => exact (not.snoc parens).congr (by simp [Dialect.negate])

theorem Phrase.negatedIf {t : Text} (negated : Bool) (h : Phrase ctx.dialect t) :
    Phrase ctx.dialect (Term.negatedIf ctx negated t) := by
  cases negated
  · exact h
  · exact .negate h.alike

theorem Phrase.nullCheck {t : Text} (negated : Bool) (h : Phrase d t) :
    Phrase d (Term.nullCheck negated t) := by
  have is := h.glyphs "IS".toList (by decide) (by decide)
  cases negated with
  | false =>
    exact (is.glyphs "NULL".toList (by decide) (by decide)).congr (by simp [Term.nullCheck])
  | true =>
    have not := is.glyphs "NOT".toList (by decide) (by decide)
    exact (not.glyphs "NULL".toList (by decide) (by decide)).congr (by simp [Term.nullCheck])

theorem Phrase.among {t ts : Text} (negated : Bool) (h : Phrase d t) (hs : Alike d ts ts) :
    Phrase d (t ++ ' ' :: (Term.inWord negated ++ '(' :: (ts ++ [')']))) := by
  have list : Word d ("IN".toList ++ '(' :: (ts ++ [')'])) := .call (by decide) hs
  cases negated with
  | false => exact h.snoc list
  | true =>
    have not := h.glyphs "NOT".toList (by decide) (by decide)
    exact (not.snoc list).congr (by simp [Term.inWord])

theorem Phrase.bars {t : Text} (h : Phrase d t) {ts : List Text} (hs : ∀ u ∈ ts, Word d u) :
    Phrase d (Text.joined " || ".toList (t :: ts)) := by
  induction ts generalizing t with
  | nil => simpa [Text.joined] using h
  | cons u ts ih =>
    have next : Phrase d (t ++ " || ".toList ++ u) :=
      ((h.glyphs "||".toList (by decide) (by decide)).snoc (hs u List.mem_cons_self)).congr
        (by simp)
    refine (ih next fun x hx => hs x (List.mem_cons_of_mem _ hx)).congr ?_
    cases ts <;> simp [Text.joined, List.intercalate]

theorem Phrase.concat {ts : List Text} (hne : ts ≠ []) (hs : ∀ u ∈ ts, Word d u) :
    Phrase d (d.concat ts) := by
  have bars : Phrase d (Text.joined " || ".toList ts) := by
    obtain ⟨t, ts, rfl⟩ := List.exists_cons_of_ne_nil hne
    exact .bars (.word (hs t List.mem_cons_self)) fun u hu => hs u (List.mem_cons_of_mem _ hu)
  cases d with
  | mysql =>
    have call : Word .mysql ("CONCAT".toList ++ '(' :: (Text.joined ", ".toList ts ++ [')'])) :=
      .call (by decide) (.list (List.forall₂_same.2 fun u hu => (hs u hu).alike))
    exact .word call
  | postgres => exact bars
  | sqlite => exact bars

theorem Phrase.escape {t : Text} (h : Phrase d t) : Phrase d (t ++ d.escapeClause) := by
  cases d with
  | mysql => exact h.congr (List.append_nil t)
  | postgres => exact h.congr (List.append_nil t)
  | sqlite =>
    have clause : Dialect.sqlite.escapeClause =
        ' ' :: ("ESCAPE".toList ++ ' ' :: Dialect.sqlite.quoteText ['\\']) := by decide
    have escape := h.glyphs "ESCAPE".toList (by decide) (by decide)
    exact (escape.snoc (.literal ['\\'])).congr (by simp [clause])

theorem mem_quoteText (t : Text) : '\'' ∈ d.quoteText t := by
  rw [quoteText_eq]
  exact List.mem_cons_self

theorem Word.pathCall {f t : Text} (hf : f.all isGlyph = true) (h : Alike d t t) (path : Text) :
    Word d (f ++ '(' :: (t ++ ", ".toList ++ d.quoteText path ++ [')'])) := by
  have args := (h.append .comma).append (.quoted path)
  exact .call hf args

theorem Word.atPath {t : Text} (h : Compact d t) (path : Text) (scalar : Bool) :
    Word d (d.atPath t path scalar) := by
  have arrow : Compact d (if scalar then "->>".toList else "->".toList) := by
    cases scalar <;> exact .of_glyphs (by decide)
  have joined := (h.append arrow).append (.literal path)
  cases d with
  | mysql => exact .of_compact joined (List.mem_append_right _ (mem_quoteText path)) (by decide)
  | sqlite => exact .of_compact joined (List.mem_append_right _ (mem_quoteText path)) (by decide)
  | postgres =>
    have first := Word.pathCall (f := "jsonb_path_query_first".toList) (by decide) h.alike path
    cases scalar with
    | false => exact first
    | true =>
      have text : Alike .postgres " #>> '\x7b\x7d'".toList " #>> '\x7b\x7d'".toList :=
        (Alike.append (t := " #>> ".toList) (u := " #>> ".toList) (.of_plain (by decide))
          (.quoted "\x7b\x7d".toList)).congr rfl rfl
      have whole : Dialect.atPath .postgres t path true =
          '(' :: (Dialect.atPath .postgres t path false ++ " #>> '\x7b\x7d'".toList ++ [')']) := by
        simp [Dialect.atPath]
      have inner : Alike .postgres (Dialect.atPath .postgres t path false)
          (Dialect.atPath .postgres t path false) := h.alike.atPath path path false
      rw [whole]
      exact .of_compact (.parens (inner.append text)) List.mem_cons_self (by decide)

theorem Word.extract {t : Text} (h : Compact d t) (path : Text) : Word d (d.extract t path) := by
  cases d with
  | mysql => exact .pathCall (f := "JSON_EXTRACT".toList) (by decide) h.alike path
  | postgres => exact .atPath h path false
  | sqlite => exact .pathCall (f := "JSON_EXTRACT".toList) (by decide) h.alike path

end Sql

theorem Column.word_sql (c : Column) : Word ctx.dialect (c.sql ctx) := by
  have name : Word ctx.dialect (if c.isWildcard then ['*'] else ctx.dialect.quoteName c.name) := by
    split
    · exact .of_glyphs (by decide) (by decide)
    · exact .name _
  obtain ⟨qualifier, n, path⟩ := c
  cases qualifier with
  | none =>
    cases path with
    | none => exact name
    | some path => exact .atPath name.compact _ _
  | some qualifier =>
    have qualified := (Compact.name (d := ctx.dialect) qualifier).append
      (.cons_glyph (c := '.') (by decide) name.compact)
    cases path with
    | none =>
      exact .of_compact qualified (List.mem_append_right _ List.mem_cons_self) (by decide)
    | some path => exact .atPath qualified _ _

namespace Term

def Closed (d : Dialect) : Term → Prop
  | column s => Word d s
  | value v => v.holdsStatement = false
  | array values => Value.anyHoldsStatement values = false
  | null => True
  | statement _ => False
  | malformed _ => True

variable {t l r : Term} {s : Text}

theorem word_sql (h : t.Closed ctx.dialect) (hs : t.sql ctx = .ok s) : Word ctx.dialect s := by
  cases t with
  | column u =>
    cases hs
    exact h
  | value v => exact Value.word_of_sql h hs
  | array values => exact Value.word_of_sql (v := .array values) h hs
  | null =>
    cases hs
    exact .of_glyphs (by decide) (by decide)
  | statement u => exact h.elim
  | malformed u => cases hs

theorem word_jsonSql (h : t.Closed ctx.dialect) (hs : t.jsonSql ctx = .ok s) :
    Word ctx.dialect s := by
  cases t with
  | value v =>
    obtain ⟨j, -, rfl⟩ := exists_of_map_eq_ok hs
    exact .literal _
  | null =>
    cases hs
    exact .literal _
  | column u => exact word_sql h hs
  | array values => exact word_sql h hs
  | statement u => exact h.elim
  | malformed u => cases hs

theorem closed_ofValue {v : Value} (hv : v.holdsStatement = false) (h : ofValue ctx v = .ok t) :
    t.Closed ctx.dialect := by
  cases v with
  | array values =>
    cases h
    simpa [Closed, Value.holdsStatement] using hv
  | statement n => simp [Value.holdsStatement] at hv
  | null =>
    cases h
    trivial
  | _ =>
    cases h
    exact hv

theorem closed_bound (hf : ctx.params.Flat) {name : Text} (h : bound ctx name = .ok t) :
    t.Closed ctx.dialect := by
  unfold bound at h
  split at h
  · next v hv => exact closed_ofValue (hf name v hv) h
  · cases h
    trivial

theorem closed_of_checked (hl : l.Closed d) (h : l.checked = .ok r) : r.Closed d := by
  rw [checked_eq_ok h]
  exact hl

theorem word_of_valueList :
    ∀ {vs : List Value} {ts : List Text}, Value.anyHoldsStatement vs = false →
    valueList ctx vs = .ok ts → ∀ u ∈ ts, Word ctx.dialect u
  | [], _, _, h => by
    cases h
    simp
  | v :: vs, _, hv, h => by
    simp only [Value.anyHoldsStatement, Bool.or_eq_false_iff] at hv
    obtain ⟨u, hu, h⟩ := exists_of_bind_eq_ok h
    obtain ⟨us, hus, h⟩ := exists_of_bind_eq_ok h
    cases h
    intro x hx
    rcases List.mem_cons.1 hx with rfl | hx
    · exact Value.word_of_sql hv.1 hu
    · exact word_of_valueList hv.2 hus x hx

theorem phrase_among {negated : Bool} {u : Text} {values : List Value} (hu : Word ctx.dialect u)
    (hv : Value.anyHoldsStatement values = false) (h : among ctx negated u values = .ok s) :
    Phrase ctx.dialect s := by
  unfold among at h
  split at h
  · cases h
    exact .nullCheck negated (.word hu)
  · obtain ⟨ts, hts, h⟩ := exists_of_bind_eq_ok h
    cases h
    have items := word_of_valueList hv hts
    exact .among negated (.word hu) (.list (List.forall₂_same.2 fun t ht => (items t ht).alike))

theorem phrase_equality {negated : Bool} (hl : l.Closed ctx.dialect) (hr : r.Closed ctx.dialect)
    (h : equality ctx negated l r = .ok s) : Phrase ctx.dialect s := by
  have ordered {l r : Term} (hl : l.Closed ctx.dialect) (hr : r.Closed ctx.dialect)
      (hn : (l.isNull && !r.isNull) = false) (h : equality ctx negated l r = .ok s) :
      Phrase ctx.dialect s := by
    simp only [equality, hn, Bool.false_eq_true, if_false] at h
    obtain ⟨u, hu, h⟩ := exists_of_bind_eq_ok h
    have word := Phrase.word (word_sql hl hu)
    split at h
    · cases h
      exact word.nullCheck negated
    · exact phrase_among (word_sql hl hu) hr h
    · obtain ⟨o, ho, h⟩ := exists_of_bind_eq_ok h
      cases h
      have other := word_sql hr ho
      cases negated with
      | false => exact ((word.glyphs ['='] (by decide) (by decide)).snoc other).congr (by simp)
      | true => exact ((word.glyphs "<>".toList (by decide) (by decide)).snoc other).congr (by simp)
  cases hn : l.isNull && !r.isNull with
  | false => exact ordered hl hr hn h
  | true =>
    rw [equality_of_null hn] at h
    exact ordered hr hl (not_isNull_of_isNull hn) h

theorem word_one : Word d "'one'".toList := by
  have quoted : "'one'".toList = d.quoteText "one".toList := by cases d <;> decide
  rw [quoted]
  exact .literal _

theorem word_call {f t u : Text} (hf : f.all isGlyph = true) (ht : Alike d t t) (hu : Alike d u u) :
    Word d (f ++ '(' :: (t ++ (", ".toList ++ u) ++ [')'])) :=
  .call hf (ht.append (.append .comma hu))

theorem phrase_documentMembership {negated : Bool} (hl : l.Closed ctx.dialect)
    (hr : r.Closed ctx.dialect) (h : documentMembership ctx negated l r = .ok s) :
    Phrase ctx.dialect s := by
  obtain ⟨-, -, h⟩ := exists_of_bind_eq_ok h
  obtain ⟨document, hd, h⟩ := exists_of_bind_eq_ok h
  obtain ⟨part, hp, h⟩ := exists_of_bind_eq_ok h
  cases h
  have root : Alike ctx.dialect "'$'".toList "'$'".toList :=
    .fixed ['$'] (by cases ctx.dialect <;> rfl)
  have args : Alike ctx.dialect (part ++ (", ".toList ++ "'$'".toList))
      (part ++ (", ".toList ++ "'$'".toList)) :=
        (word_jsonSql hr hp).alike.append (.append .comma root)
  have call := word_call (f := "JSON_CONTAINS".toList) (by decide) (word_jsonSql hl hd).alike args
  have compared :=
    ((Phrase.word call).glyphs ['>'] (by decide) (by decide)).glyphs ['0'] (by decide)
    (by decide)
  exact .negatedIf negated (compared.congr (by simp))

theorem phrase_membership {negated : Bool} (hl : l.Closed ctx.dialect) (hr : r.Closed ctx.dialect)
    (h : membership ctx negated l r = .ok s) : Phrase ctx.dialect s := by
  cases l with
  | column u =>
    cases r with
    | null =>
      cases h
      exact .nullCheck negated (.word hl)
    | array values => exact phrase_among hl hr h
    | statement inner => exact hr.elim
    | malformed t => cases h
    | column v =>
      cases h
      have hv : Word ctx.dialect v := hr
      exact .among negated (.word hl) hv.alike
    | value v =>
      obtain ⟨item, hi, h⟩ := exists_of_bind_eq_ok h
      cases h
      exact .among negated (.word hl) (word_sql hr hi).alike
  | value v => exact phrase_documentMembership hl hr h
  | array values => exact phrase_documentMembership hl hr h
  | null => exact phrase_documentMembership hl hr h
  | statement u => exact hl.elim
  | malformed t => exact phrase_documentMembership hl hr h

theorem word_wildcard (t : Text) :
    ∀ x ∈ (if t.isEmpty then [] else [['\'', '%', '\'']] : List Text),
    Word d x := by
  have quoted : ['\'', '%', '\''] = d.quoteText ['%'] := by cases d <;> decide
  split
  · simp
  · rw [List.forall_mem_singleton, quoted]
    exact .literal _

theorem phrase_around (before after : Text) {o : Text} (ho : Word d o) :
    Phrase d (d.concat ((if before.isEmpty then [] else [['\'', '%', '\'']]) ++ o ::
      (if after.isEmpty then [] else [['\'', '%', '\'']]))) := by
  refine .concat (by simp) ?_
  rw [List.forall_mem_append, List.forall_mem_cons]
  exact ⟨word_wildcard before, ho, word_wildcard after⟩

theorem phrase_like (negated : Bool) {t u : Text} (hu : Phrase d u) (ht : Phrase d t) :
    Phrase d (u ++ (if negated then " NOT LIKE ".toList else " LIKE ".toList) ++ t) := by
  cases negated with
  | false => exact ((hu.glyphs "LIKE".toList (by decide) (by decide)).append ht).congr (by simp)
  | true =>
    have not := hu.glyphs "NOT".toList (by decide) (by decide)
    exact ((not.glyphs "LIKE".toList (by decide) (by decide)).append ht).congr (by simp)

theorem phrase_pattern {op : Operator} {negated : Bool} (hl : l.Closed ctx.dialect)
    (hr : r.Closed ctx.dialect) (h : pattern ctx op negated l r = .ok s) :
    Phrase ctx.dialect s := by
  obtain ⟨u, hu, h⟩ := exists_of_bind_eq_ok h
  have word := Phrase.word (word_sql hl hu)
  cases r with
  | null =>
    cases h
    exact word.nullCheck negated
  | value v =>
    obtain ⟨text, -, h⟩ := exists_of_bind_eq_ok h
    cases h
    exact phrase_like negated word (.escape (.word (.literal _)))
  | array values => cases h
  | column u =>
    obtain ⟨o, ho, h⟩ := exists_of_bind_eq_ok (x := (column u).sql ctx) h
    cases h
    exact phrase_like negated word (phrase_around _ _ (word_sql hr ho))
  | statement u => exact hr.elim
  | malformed t => cases h

theorem phrase_regexp {negated : Bool} (hl : l.Closed ctx.dialect) (hr : r.Closed ctx.dialect)
    (h : regexp ctx negated l r = .ok s) : Phrase ctx.dialect s := by
  obtain ⟨u, hu, h⟩ := exists_of_bind_eq_ok h
  obtain ⟨o, ho, h⟩ := exists_of_bind_eq_ok h
  cases h
  have plain {t : Text} (ht : t.all isGlyph = true) (hf : Sql.isConnective t = false) :
      Phrase ctx.dialect t := .word (.of_glyphs ht hf)
  have sign : Phrase ctx.dialect (ctx.dialect.matchOperator negated) := by
    have regexp : Phrase ctx.dialect "REGEXP".toList := plain (by decide) (by decide)
    have not : Phrase ctx.dialect "NOT REGEXP".toList :=
      ((plain (t := "NOT".toList) (by decide) (by decide)).append regexp).congr (by simp)
    cases hd : ctx.dialect <;> cases negated <;> rw [hd] at regexp not plain
    · exact regexp
    · exact not
    · exact plain (t := ['~']) (by decide) (by decide)
    · exact plain (t := "!~".toList) (by decide) (by decide)
    · exact regexp
    · exact not
  exact (((Phrase.word (word_sql hl hu)).append sign).snoc (word_sql hr ho)).congr (by simp)

theorem phrase_search {negated : Bool} {u v : Text} (hu : Alike ctx.dialect u u)
    (hv : Alike ctx.dialect v v) : Phrase ctx.dialect (nullCheck negated
      ("JSON_SEARCH(".toList ++ u ++ ", 'one', ".toList ++ v ++ [')'])) := by
  have args : Alike ctx.dialect ("'one'".toList ++ (", ".toList ++ v))
      ("'one'".toList ++ (", ".toList ++ v)) := word_one.alike.append (.append .comma hv)
  have call := word_call (f := "JSON_SEARCH".toList) (by decide) hu args
  exact ((Phrase.word call).nullCheck negated).congr (by simp)

theorem phrase_jsonKeyExists {negated : Bool} (hl : l.Closed ctx.dialect)
    (hr : r.Closed ctx.dialect) (h : jsonKeyExists ctx negated l r = .ok s) :
    Phrase ctx.dialect s := by
  obtain ⟨-, -, h⟩ := exists_of_bind_eq_ok h
  obtain ⟨u, hu, h⟩ := exists_of_bind_eq_ok h
  have keys : Alike ctx.dialect ("JSON_KEYS(".toList ++ u ++ [')'])
      ("JSON_KEYS(".toList ++ u ++ [')']) :=
    (Alike.call (f := "JSON_KEYS".toList) (by decide) (word_sql hl hu).alike).congr (by simp)
      (by simp)
  dsimp only at h
  split at h
  · obtain ⟨j, -, h⟩ := exists_of_bind_eq_ok h
    cases h
    have call := word_call (f := "JSON_OVERLAPS".toList) (by decide) keys (.quoted j.written)
    exact .negatedIf negated ((Phrase.word call).congr (by simp; rfl))
  · obtain ⟨o, ho, h⟩ := exists_of_bind_eq_ok h
    cases h
    exact phrase_search keys (word_sql hr ho).alike

theorem phrase_jsonPathExists {negated : Bool} (hl : l.Closed ctx.dialect)
    (h : jsonPathExists ctx negated l r = .ok s) : Phrase ctx.dialect s := by
  obtain ⟨path, -, h⟩ := exists_of_bind_eq_ok h
  obtain ⟨u, hu, h⟩ := exists_of_bind_eq_ok h
  cases h
  exact .nullCheck _ (.word (.extract (word_sql hl hu).compact path))

theorem phrase_jsonContains {negated : Bool} (hl : l.Closed ctx.dialect) (hr : r.Closed ctx.dialect)
    (h : jsonContains ctx negated l r = .ok s) : Phrase ctx.dialect s := by
  obtain ⟨-, -, h⟩ := exists_of_bind_eq_ok h
  obtain ⟨u, hu, h⟩ := exists_of_bind_eq_ok h
  obtain ⟨part, hp, h⟩ := exists_of_bind_eq_ok h
  cases h
  have call := word_call (f := "JSON_CONTAINS".toList) (by decide) (word_sql hl hu).alike
    (word_jsonSql hr hp).alike
  have compared :=
    ((Phrase.word call).glyphs ['='] (by decide) (by decide)).glyphs ['1'] (by decide)
    (by decide)
  exact .negatedIf negated (compared.congr (by simp))

theorem phrase_jsonSearch {negated : Bool} (hl : l.Closed ctx.dialect) (hr : r.Closed ctx.dialect)
    (h : jsonSearch ctx negated l r = .ok s) : Phrase ctx.dialect s := by
  obtain ⟨-, -, h⟩ := exists_of_bind_eq_ok h
  obtain ⟨u, hu, h⟩ := exists_of_bind_eq_ok h
  obtain ⟨o, ho, h⟩ := exists_of_bind_eq_ok h
  cases h
  exact phrase_search (word_sql hl hu).alike (word_sql hr ho).alike

theorem phrase_between {negated : Bool} {written : Text} (hl : l.Closed ctx.dialect)
    (hr : r.Closed ctx.dialect) (h : between ctx negated l r written = .ok s) :
    Phrase ctx.dialect s := by
  unfold between at h
  split at h
  · next low high =>
    obtain ⟨u, hu, h⟩ := exists_of_bind_eq_ok h
    obtain ⟨a, ha, h⟩ := exists_of_bind_eq_ok h
    obtain ⟨b, hb, h⟩ := exists_of_bind_eq_ok h
    cases h
    simp only [Closed, Value.anyHoldsStatement, Bool.or_eq_false_iff] at hr
    have word := Phrase.word (word_sql hl hu)
    have low := Value.word_of_sql hr.1 ha
    have high := Value.word_of_sql hr.2.1 hb
    cases negated with
    | false => exact (word.between low high).congr (by simp)
    | true =>
      have not := word.glyphs "NOT".toList (by decide) (by decide)
      exact (not.between low high).congr (by simp)
  · cases h
  · cases h

theorem phrase_ordering {op : Operator} {negated : Bool} (hl : l.Closed ctx.dialect)
    (hr : r.Closed ctx.dialect) (h : ordering ctx op negated l r = .ok s) :
    Phrase ctx.dialect s := by
  obtain ⟨u, hu, h⟩ := exists_of_bind_eq_ok h
  obtain ⟨o, ho, h⟩ := exists_of_bind_eq_ok h
  cases h
  have sign : Phrase ctx.dialect (u ++ ' ' :: op.symbol) :=
    (Phrase.word (word_sql hl hu)).glyphs op.symbol (by cases op <;> decide)
      (by cases op <;> decide)
  exact .negatedIf negated ((sign.snoc (word_sql hr ho)).congr (by simp))

theorem phrase_compare {op : Operator} {negated : Bool} {written : Text} (hl : l.Closed ctx.dialect)
    (hr : r.Closed ctx.dialect) (h : compare ctx op negated l r written = .ok s) :
    Phrase ctx.dialect s := by
  cases op with
  | equal => exact phrase_equality hl hr h
  | notEqual => exact phrase_equality hl hr h
  | membership => exact phrase_membership hl hr h
  | contains => exact phrase_pattern hl hr h
  | startsWith => exact phrase_pattern hl hr h
  | endsWith => exact phrase_pattern hl hr h
  | regexp => exact phrase_regexp hl hr h
  | jsonKeyExists => exact phrase_jsonKeyExists hl hr h
  | jsonPathExists => exact phrase_jsonPathExists hl h
  | jsonContains => exact phrase_jsonContains hl hr h
  | jsonSearch => exact phrase_jsonSearch hl hr h
  | between => exact phrase_between hl hr h
  | notBetween => exact phrase_between hl hr h
  | greater => exact phrase_ordering hl hr h
  | less => exact phrase_ordering hl hr h
  | greaterOrEqual => exact phrase_ordering hl hr h
  | lessOrEqual => exact phrase_ordering hl hr h

end Term

end QueryShorthand
