import QueryShorthand.Proofs.Value.Numeral
import QueryShorthand.Upsert

/-! The fragments of SQL that differ between databases, made from fragments that are alike. -/
namespace QueryShorthand.Sql

variable {d : Dialect}

theorem Alike.congr {t u t' u' : Text} (h : Alike d t u) (ht : t' = t) (hu : u' = u) :
    Alike d t' u' := ht ▸ hu ▸ h

theorem Alike.negate {t u : Text} (h : Alike d t u) : Alike d (d.negate t) (d.negate u) := by
  cases d with
  | mysql => exact (Alike.call (f := ['!']) (by decide) h).congr rfl rfl
  | postgres =>
    exact (Alike.append (t := "NOT ".toList) (u := "NOT ".toList) (.of_plain (by decide))
      (.parens h)).congr rfl rfl
  | sqlite =>
    exact (Alike.append (t := "NOT ".toList) (u := "NOT ".toList) (.of_plain (by decide))
      (.parens h)).congr rfl rfl

theorem Alike.fixed {t : Text} (u : Text) (h : t = d.quoteText u) : Alike d t t := h ▸ .literal u u

theorem Alike.quoted (t : Text) : Alike d (d.quoteText t) (d.quoteText t) := .literal t t

theorem Alike.comma : Alike d ", ".toList ", ".toList := .of_plain (by decide)

theorem Alike.list {ts us : List Text} (h : List.Forall₂ (Alike d) ts us) :
    Alike d (Text.joined ", ".toList ts) (Text.joined ", ".toList us) := .joined .comma h

theorem Alike.concat {ts us : List Text} (h : List.Forall₂ (Alike d) ts us) :
    Alike d (d.concat ts) (d.concat us) := by
  have bars : Alike d " || ".toList " || ".toList := .of_plain (by decide)
  cases d with
  | mysql =>
    have shape (parts : List Text) : Dialect.mysql.concat parts =
        "CONCAT".toList ++ '(' :: (Text.joined ", ".toList parts ++ [')']) := rfl
    rw [shape, shape]
    exact .call (by decide) (.list h)
  | postgres => exact .joined bars h
  | sqlite => exact .joined bars h

theorem alike_escapeClause (d : Dialect) : Alike d d.escapeClause d.escapeClause := by
  cases d with
  | mysql => exact .nil
  | postgres => exact .nil
  | sqlite =>
    have clause :
        Dialect.sqlite.escapeClause = " ESCAPE ".toList ++ Dialect.sqlite.quoteText ['\\'] := by
      decide
    rw [clause]
    exact .append (.of_plain (by decide)) (.quoted _)

theorem Alike.atPath {t u : Text} (path path' : Text) (scalar : Bool) (h : Alike d t u) :
    Alike d (d.atPath t path scalar) (d.atPath u path' scalar) := by
  have arrow : Alike d (if scalar then "->>".toList else "->".toList)
      (if scalar then "->>".toList else "->".toList) := by
    cases scalar <;> exact .of_plain (by decide)
  cases d with
  | mysql => exact (h.append arrow).append (.literal path path')
  | sqlite => exact (h.append arrow).append (.literal path path')
  | postgres =>
    have first : Alike .postgres
        ("jsonb_path_query_first(".toList ++ t ++ ", ".toList ++ Dialect.quoteText .postgres path ++
          [')'])
        ("jsonb_path_query_first(".toList ++ u ++ ", ".toList ++ Dialect.quoteText .postgres path'
          ++ [')']) :=
      (Alike.call (f := "jsonb_path_query_first".toList) (by decide)
        (h.append (.append .comma (.literal path path')))).congr (by simp) (by simp)
    cases scalar with
    | false => exact first
    | true =>
      have tail : Alike .postgres " #>> '\x7b\x7d'".toList " #>> '\x7b\x7d'".toList :=
        (Alike.append (t := " #>> ".toList) (u := " #>> ".toList) (.of_plain (by decide))
          (.quoted "\x7b\x7d".toList)).congr rfl rfl
      exact (Alike.parens (first.append tail)).congr (by simp [Dialect.atPath])
        (by simp [Dialect.atPath])

theorem Alike.extract {t u : Text} (path path' : Text) (h : Alike d t u) :
    Alike d (d.extract t path) (d.extract u path') := by
  have call : Alike d ("JSON_EXTRACT(".toList ++ t ++ ", ".toList ++ d.quoteText path ++ [')'])
      ("JSON_EXTRACT(".toList ++ u ++ ", ".toList ++ d.quoteText path' ++ [')']) :=
    (Alike.call (f := "JSON_EXTRACT".toList) (by decide)
      (h.append (.append .comma (.literal path path')))).congr (by simp) (by simp)
  cases d with
  | mysql => exact call
  | postgres => exact h.atPath path path' false
  | sqlite => exact call

theorem Alike.names (names : List Text) : Alike d (Text.joined ", ".toList (names.map d.quoteName))
    (Text.joined ", ".toList (names.map d.quoteName)) :=
  .list (List.forall₂_same.2 fun t ht => by
    obtain ⟨name, -, rfl⟩ := List.mem_map.1 ht
    exact .name name)

theorem Alike.number (n : Nat) : Alike d (Text.ofNat n) (Text.ofNat n) := by
  have digits : (Text.ofNat n).all isDigit = true :=
    List.all_eq_true.2 fun c hc => isDigit_of_mem_ofNat hc
  exact (Compact.of_glyphs (all_isGlyph_of_all_isDigit digits)).alike

theorem alike_limit (offset length : Nat) :
    Alike d (d.limit offset length) (d.limit offset length) := by
  have word : Alike d "LIMIT ".toList "LIMIT ".toList := .of_plain (by decide)
  have behind : Alike d " OFFSET ".toList " OFFSET ".toList := .of_plain (by decide)
  unfold Dialect.limit
  split
  · exact word.append (.number length)
  · cases d with
    | mysql => exact ((word.append (.number offset)).append .comma).append (.number length)
    | postgres => exact ((word.append (.number length)).append behind).append (.number offset)
    | sqlite => exact ((word.append (.number length)).append behind).append (.number offset)

theorem alike_upsert {target columns : List Text} {t : Text} (h : d.upsert target columns = .ok t) :
    Alike d t t := by
  have sets {f : Text → Text} (hf : ∀ c, Alike d (f c) (f c)) :
      Alike d (Text.joined ", ".toList (columns.map f)) (Text.joined ", ".toList (columns.map f)) :=
    .list (List.forall₂_same.2 fun t ht => by
      obtain ⟨c, -, rfl⟩ := List.mem_map.1 ht
      exact hf c)
  have conflict (h : (if target = [] then .error (.emptyName .conflictTarget) else
      .ok ("ON CONFLICT (".toList ++ Text.joined ", ".toList (target.map d.quoteName)
        ++ ") DO UPDATE SET ".toList ++ Text.joined ", ".toList
          (columns.map fun c => d.quoteName c ++ " = excluded.".toList ++ d.quoteName c)) :
        Compiled) = .ok t) : Alike d t t := by
    split at h <;> cases h
    have excluded (c : Text) := ((Alike.name (d := d) c).append
      (.of_plain (t := " = excluded.".toList) (by decide))).append (.name c)
    have head : Alike d "ON CONFLICT ".toList "ON CONFLICT ".toList := .of_plain (by decide)
    have update : Alike d " DO UPDATE SET ".toList " DO UPDATE SET ".toList := .of_plain (by decide)
    exact (head.append
      ((Alike.parens (.names target)).append (update.append (sets excluded)))).congr
      (by simp) (by simp)
  cases d with
  | mysql =>
    cases h
    have value (c : Text) : Alike .mysql
        (Dialect.quoteName .mysql c ++ " = VALUES(".toList ++ Dialect.quoteName .mysql c ++ [')'])
        (Dialect.quoteName .mysql c ++ " = VALUES(".toList ++ Dialect.quoteName .mysql c ++
          [')']) :=
      ((Alike.name c).append ((Alike.of_plain (t := " = ".toList) (by decide)).append
        (.call (f := "VALUES".toList) (by decide) (.name c)))).congr (by simp) (by simp)
    exact (Alike.of_plain (t := "ON DUPLICATE KEY UPDATE ".toList) (by decide)).append (sets value)
  | postgres => exact conflict h
  | sqlite => exact conflict h

end QueryShorthand.Sql
