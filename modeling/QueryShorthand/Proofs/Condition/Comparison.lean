import QueryShorthand.Condition.Compile
import QueryShorthand.Proofs.Sql.Dialect
import QueryShorthand.Proofs.Value.Shape

/-! Comparisons under bags whose values have one shape. The texts are alike; only a JSON path that
comes from a bound text can make one of them fail alone. -/
namespace QueryShorthand

open Sql (Alike)

variable {target : Target} {p q : Parameters} {strict : Prop}

namespace Sql

variable {d : Dialect}

theorem Alike.negatedIf {target : Target} {p q : Parameters} {t u : Text} (negated : Bool)
    (h : Alike target.dialect t u) : Alike target.dialect (Term.negatedIf ⟨target, p⟩ negated t)
      (Term.negatedIf ⟨target, q⟩ negated u) := by
  cases negated
  · exact h
  · exact h.negate

theorem Alike.nullCheck {t u : Text} (negated : Bool) (h : Alike d t u) :
    Alike d (Term.nullCheck negated t) (Term.nullCheck negated u) := by
  cases negated
  · exact h.append (.of_plain (by decide))
  · exact h.append (.of_plain (by decide))

theorem all_isGlyph_inWord (negated : Bool) :
    ((Term.inWord negated).all fun c => c == ' ' || isGlyph c) = true := by
  cases negated <;> decide

theorem Alike.among {t u ts us : Text} (negated : Bool) (h : Alike d t u) (hs : Alike d ts us) :
    Alike d (t ++ ' ' :: (Term.inWord negated ++ '(' :: (ts ++ [')'])))
      (u ++ ' ' :: (Term.inWord negated ++ '(' :: (us ++ [')']))) :=
  h.append (.cons_blank (.append (.of_plain (all_isGlyph_inWord negated)) (.parens hs)))

end Sql

theorem Column.alike_sql (c : Column) :
    Alike target.dialect (c.sql ⟨target, p⟩) (c.sql ⟨target, q⟩) := by
  have name : Alike target.dialect (if c.isWildcard then ['*'] else target.dialect.quoteName c.name)
      (if c.isWildcard then ['*'] else target.dialect.quoteName c.name) := by
    split
    · exact .of_plain (by decide)
    · exact .name _
  obtain ⟨qualifier, n, path⟩ := c
  cases qualifier with
  | none =>
    cases path with
    | none => exact name
    | some path => exact name.atPath _ _ _
  | some qualifier =>
    have qualified := (Alike.name (d := target.dialect) qualifier).append
      (.cons_glyph (c := '.') (by decide) name)
    cases path with
    | none => exact qualified
    | some path => exact qualified.atPath _ _ _

namespace Term

inductive SameShape (d : Dialect) : Term → Term → Prop where
  | column {s t : Text} (h : Alike d s t) : SameShape d (.column s) (.column t)
  | value {v w : Value} (h : v.SameShape w) : SameShape d (.value v) (.value w)
  | array {vs ws : List Value} (h : Value.SameShapes vs ws) : SameShape d (.array vs) (.array ws)
  | null : SameShape d .null .null
  | malformed (t : Text) : SameShape d (.malformed t) (.malformed t)

variable {l l' r r' : Term}

theorem agree_ofValue {v w : Value} (h : v.SameShape w) :
    Agree (SameShape target.dialect) strict (ofValue ⟨target, p⟩ v) (ofValue ⟨target, q⟩ w) := by
  cases v <;> cases w <;> simp only [Value.SameShape] at h <;> try exact h.elim
  · exact .ok .null
  · exact .ok (.value h)
  · exact .ok (.value h)
  · exact .ok (.value h)
  · exact .ok (.value h)
  · exact .ok (.array h)
  · exact .ok (.value h)

theorem agree_bound (h : p.SameShape q) (name : Text) :
    Agree (SameShape target.dialect) strict (bound ⟨target, p⟩ name) (bound ⟨target, q⟩ name) := by
  have hn := h name
  unfold bound
  cases hp : p.get? name <;> cases hq : q.get? name <;> rw [hp, hq] at hn
  · exact .ok .null
  · cases hn
  · cases hn
  · cases hn with
    | some hn => exact agree_ofValue hn

theorem agree_sql (h : SameShape target.dialect l l') :
    Agree (Alike target.dialect) strict (l.sql ⟨target, p⟩) (l'.sql ⟨target, q⟩) := by
  cases h with
  | column h => exact .ok h
  | value h => exact Value.agree_sql h
  | array h => exact Value.agree_sql (v := .array _) (w := .array _) h
  | null => exact .ok (.of_plain (by decide))
  | malformed => exact .errors

theorem agree_jsonSql (h : SameShape target.dialect l l') :
    Agree (Alike target.dialect) strict (l.jsonSql ⟨target, p⟩) (l'.jsonSql ⟨target, q⟩) := by
  cases h with
  | column h => exact .ok h
  | value h => exact (Value.agree_toJson h).map fun _ _ _ => .literal _ _
  | array h => exact agree_sql (.array h)
  | null => exact .ok (.literal _ _)
  | malformed => exact .errors

theorem isNull_eq {d : Dialect} (h : SameShape d l l') : l.isNull = l'.isNull := by
  cases h <;> rfl

theorem agree_checked (h : SameShape target.dialect l l') :
    Agree (SameShape target.dialect) strict l.checked l'.checked := by
  cases h with
  | column h => exact .ok (.column h)
  | value h => exact .ok (.value h)
  | array h => exact .ok (.array h)
  | null => exact .ok .null
  | malformed => exact .errors

theorem agree_needsJson (op : Operator) :
    Agree (fun _ _ => True) strict (needsJson ⟨target, p⟩ op) (needsJson ⟨target, q⟩ op) := by
  unfold needsJson
  change Agree _ _ (if target.dialect.hasJsonFunctions = true then _ else _)
    (if target.dialect.hasJsonFunctions = true then _ else _)
  split
  · exact .ok trivial
  · exact .errors

theorem valueList_eq_ok_iff {ctx : Context} {values : List Value} {items : List Text} :
    valueList ctx values = .ok items ↔
      List.Forall₂ (fun v t => v.sql ctx.dialect = .ok t) values items := by
  have hmap : valueList ctx values = values.mapM fun v => v.sql ctx.dialect := by
    induction values with
    | nil => rfl
    | cons v vs ih => rw [valueList, ih, List.mapM_cons]
  rw [hmap, mapM_eq_ok_iff]

theorem agree_valueList {vs ws : List Value} (h : Value.SameShapes vs ws) :
    Agree (List.Forall₂ (Alike target.dialect)) strict (valueList ⟨target, p⟩ vs)
      (valueList ⟨target, q⟩ ws) := by
  induction vs generalizing ws with
  | nil =>
    cases ws with
    | nil => exact .ok .nil
    | cons w ws => exact h.elim
  | cons v vs ih =>
    cases ws with
    | nil => exact h.elim
    | cons w ws =>
      refine (Value.agree_sql h.1).bind fun t u ht => ?_
      exact (ih h.2).bind fun ts us hts => .ok (.cons ht hts)

theorem agree_among (negated : Bool) {s t : Text} (hs : Alike target.dialect s t)
    {vs ws : List Value} (h : Value.SameShapes vs ws) :
    Agree (Alike target.dialect) strict (among ⟨target, p⟩ negated s vs)
      (among ⟨target, q⟩ negated t ws) := by
  unfold among
  rw [← Value.isEmpty_eq_of_sameShapes h]
  split
  · exact .ok (hs.nullCheck negated)
  · exact (agree_valueList h).bind fun _ _ hts => .ok (hs.among negated (.list hts))

theorem not_isNull_of_isNull (h : (l.isNull && !r.isNull) = true) :
    (r.isNull && !l.isNull) = false := by
  cases hl : l.isNull <;> cases hr : r.isNull <;> simp_all

theorem equality_of_null {ctx : Context} {negated : Bool} (h : (l.isNull && !r.isNull) = true) :
    equality ctx negated l r = equality ctx negated r l := by
  simp only [equality, h, not_isNull_of_isNull h, if_true, Bool.false_eq_true, if_false]

theorem agree_equality (negated : Bool) (hl : SameShape target.dialect l l')
    (hr : SameShape target.dialect r r') :
    Agree (Alike target.dialect) strict (equality ⟨target, p⟩ negated l r)
      (equality ⟨target, q⟩ negated l' r') := by
  have sign : Alike target.dialect (if negated then " <> ".toList else " = ".toList)
      (if negated then " <> ".toList else " = ".toList) := by
    cases negated <;> exact .of_plain (by decide)
  have ordered {l l' r r' : Term} (hl : SameShape target.dialect l l')
      (hr : SameShape target.dialect r r') (hn : (l.isNull && !r.isNull) = false) :
      Agree (Alike target.dialect) strict (equality ⟨target, p⟩ negated l r)
        (equality ⟨target, q⟩ negated l' r') := by
    simp only [equality, ← isNull_eq hl, ← isNull_eq hr, hn, Bool.false_eq_true, if_false]
    refine (agree_sql hl).bind fun s t hs => ?_
    cases hr with
    | column h => exact .ok ((hs.append sign).append h)
    | value h => exact (agree_sql (.value h)).bind fun _ _ ho => .ok ((hs.append sign).append ho)
    | array h => exact agree_among negated hs h
    | null => exact .ok (hs.nullCheck negated)
    | malformed => exact .errors
  cases hn : l.isNull && !r.isNull with
  | false => exact ordered hl hr hn
  | true =>
    have hn' : (l'.isNull && !r'.isNull) = true := by rwa [← isNull_eq hl, ← isNull_eq hr]
    rw [equality_of_null hn, equality_of_null hn']
    exact ordered hr hl (not_isNull_of_isNull hn)

/-- What `membership` asks where its left side is no column: whether a document has the other in
it. -/
def documentMembership (ctx : Context) (negated : Bool) (l r : Term) : Compiled := do
  needsJson ctx .membership
  let document ← l.jsonSql ctx
  let part ← r.jsonSql ctx
  return negatedIf ctx negated
    ("JSON_CONTAINS(".toList ++ document ++ ", ".toList ++ part ++ ", '$') > 0".toList)

theorem agree_documentMembership (negated : Bool) (hl : SameShape target.dialect l l')
    (hr : SameShape target.dialect r r') :
    Agree (Alike target.dialect) strict (documentMembership ⟨target, p⟩ negated l r)
      (documentMembership ⟨target, q⟩ negated l' r') := by
  refine (agree_needsJson _).bind fun _ _ _ => ?_
  refine (agree_jsonSql hl).bind fun s t hs => ?_
  refine (agree_jsonSql hr).bind fun u v hu => .ok (.negatedIf negated ?_)
  have root : Alike target.dialect "'$'".toList "'$'".toList :=
    .fixed ['$'] (by cases target.dialect <;> rfl)
  have call := Alike.call (f := "JSON_CONTAINS".toList) (by decide)
    (hs.append (.append .comma (hu.append (.append .comma root))))
  exact (call.append (.of_plain (t := " > 0".toList) (by decide))).congr (by simp) (by simp)

theorem agree_membership (negated : Bool) (hl : SameShape target.dialect l l')
    (hr : SameShape target.dialect r r') :
    Agree (Alike target.dialect) strict (membership ⟨target, p⟩ negated l r)
      (membership ⟨target, q⟩ negated l' r') := by
  cases hl with
  | column hs =>
    cases hr with
    | column h => exact .ok (hs.among negated h)
    | value h => exact (agree_sql (.value h)).bind fun _ _ ho => .ok (hs.among negated ho)
    | array h => exact agree_among negated hs h
    | null => exact .ok (hs.nullCheck negated)
    | malformed => exact .errors
  | value h => exact agree_documentMembership negated (.value h) hr
  | array h => exact agree_documentMembership negated (.array h) hr
  | null => exact agree_documentMembership negated .null hr
  | malformed t => exact agree_documentMembership negated (.malformed t) hr

theorem agree_pattern (op : Operator) (negated : Bool) (hl : SameShape target.dialect l l')
    (hr : SameShape target.dialect r r') :
    Agree (Alike target.dialect) strict (pattern ⟨target, p⟩ op negated l r)
      (pattern ⟨target, q⟩ op negated l' r') := by
  have like : Alike target.dialect (if negated then " NOT LIKE ".toList else " LIKE ".toList)
      (if negated then " NOT LIKE ".toList else " LIKE ".toList) := by
    cases negated <;> exact .of_plain (by decide)
  have wild (t : Text) : List.Forall₂ (Alike target.dialect)
      (if t.isEmpty then [] else [['\'', '%', '\'']])
        (if t.isEmpty then [] else [['\'', '%', '\'']]) := by
    split
    · exact .nil
    · exact .cons (.fixed ['%'] (by cases target.dialect <;> rfl)) .nil
  have around (t u : Text) {v w : Text} (h : Alike target.dialect v w) : Alike target.dialect
      (target.dialect.concat ((if t.isEmpty then [] else [['\'', '%', '\'']]) ++ v ::
        (if u.isEmpty then [] else [['\'', '%', '\'']])))
      (target.dialect.concat ((if t.isEmpty then [] else [['\'', '%', '\'']]) ++ w ::
        (if u.isEmpty then [] else [['\'', '%', '\'']]))) :=
    .concat (List.rel_append (wild t) (.cons h (wild u)))
  unfold pattern
  refine (agree_sql hl).bind fun s t hs => ?_
  cases hr with
  | column h => exact .ok ((hs.append like).append (around _ _ h))
  | value h =>
    exact (Value.agree_patternText h).bind fun _ _ _ =>
      .ok ((hs.append like).append (.append (.literal _ _) (Sql.alike_escapeClause _)))
  | array h => exact .errors
  | null => exact .ok (hs.nullCheck negated)
  | malformed => exact .errors

theorem agree_regexp (negated : Bool) (hl : SameShape target.dialect l l')
    (hr : SameShape target.dialect r r') :
    Agree (Alike target.dialect) strict (regexp ⟨target, p⟩ negated l r)
      (regexp ⟨target, q⟩ negated l' r') := by
  have sign : Alike target.dialect (target.dialect.matchOperator negated)
      (target.dialect.matchOperator negated) := by
    cases target.dialect <;> cases negated <;> exact .of_plain (by decide)
  unfold regexp
  refine (agree_sql hl).bind fun s t hs => ?_
  exact (agree_sql hr).bind fun u v hu =>
    .ok (hs.append (.cons_blank (sign.append (.cons_blank hu))))

theorem alike_one : Alike target.dialect "'one'".toList "'one'".toList :=
  .fixed "one".toList (by cases target.dialect <;> decide)

theorem alike_search (negated : Bool) {s t u v : Text} (hs : Alike target.dialect s t)
    (hu : Alike target.dialect u v) : Alike target.dialect
      (nullCheck negated ("JSON_SEARCH(".toList ++ s ++ ", 'one', ".toList ++ u ++ [')']))
      (nullCheck negated ("JSON_SEARCH(".toList ++ t ++ ", 'one', ".toList ++ v ++ [')'])) := by
  have call := Alike.call (f := "JSON_SEARCH".toList) (by decide)
    (hs.append (.append .comma (alike_one.append (.append .comma hu))))
  exact (call.congr (by simp) (by simp)).nullCheck negated

theorem agree_jsonKeyExists (negated : Bool) (hl : SameShape target.dialect l l')
    (hr : SameShape target.dialect r r') :
    Agree (Alike target.dialect) strict (jsonKeyExists ⟨target, p⟩ negated l r)
      (jsonKeyExists ⟨target, q⟩ negated l' r') := by
  unfold jsonKeyExists
  refine (agree_needsJson _).bind fun _ _ _ => ?_
  refine (agree_sql hl).bind fun s t hs => ?_
  have keys : Alike target.dialect ("JSON_KEYS(".toList ++ s ++ [')'])
      ("JSON_KEYS(".toList ++ t ++ [')']) :=
    (Alike.call (f := "JSON_KEYS".toList) (by decide) hs).congr (by simp) (by simp)
  have search {r r' : Term} (hr : SameShape target.dialect r r') :
      Agree (Alike target.dialect) strict
      (do
        let other ← r.sql ⟨target, p⟩
        return nullCheck (!negated)
          ("JSON_SEARCH(".toList ++ ("JSON_KEYS(".toList ++ s ++ [')']) ++ ", 'one', ".toList ++
            other ++ [')']))
      (do
        let other ← r'.sql ⟨target, q⟩
        return nullCheck (!negated)
          ("JSON_SEARCH(".toList ++ ("JSON_KEYS(".toList ++ t ++ [')']) ++ ", 'one', ".toList ++
            other ++ [')'])) :=
    (agree_sql hr).bind fun _ _ hu => .ok (alike_search _ keys hu)
  cases hr with
  | column h => exact search (.column h)
  | value h => exact search (.value h)
  | null => exact search .null
  | malformed t => exact search (.malformed t)
  | array h =>
    refine (Value.agree_toJson (v := .array _) (w := .array _) h).bind fun j k _ =>
      .ok (.negatedIf negated ?_)
    exact (Alike.call (f := "JSON_OVERLAPS".toList) (by decide)
      (keys.append (.append .comma (.literal _ _)))).congr (by simp; rfl) (by simp; rfl)

theorem agree_jsonContains (negated : Bool) (hl : SameShape target.dialect l l')
    (hr : SameShape target.dialect r r') :
    Agree (Alike target.dialect) strict (jsonContains ⟨target, p⟩ negated l r)
      (jsonContains ⟨target, q⟩ negated l' r') := by
  unfold jsonContains
  refine (agree_needsJson _).bind fun _ _ _ => ?_
  refine (agree_sql hl).bind fun s t hs => ?_
  refine (agree_jsonSql hr).bind fun u v hu => .ok (.negatedIf negated ?_)
  have call := Alike.call (f := "JSON_CONTAINS".toList) (by decide) (hs.append (.append .comma hu))
  exact (call.append (.of_plain (t := " = 1".toList) (by decide))).congr (by simp) (by simp)

theorem agree_jsonSearch (negated : Bool) (hl : SameShape target.dialect l l')
    (hr : SameShape target.dialect r r') :
    Agree (Alike target.dialect) strict (jsonSearch ⟨target, p⟩ negated l r)
      (jsonSearch ⟨target, q⟩ negated l' r') := by
  unfold jsonSearch
  refine (agree_needsJson _).bind fun _ _ _ => ?_
  refine (agree_sql hl).bind fun s t hs => ?_
  exact (agree_sql hr).bind fun u v hu => .ok (alike_search _ hs hu)

/-- Whether a bound text is a path depends on its characters, so success may differ here. -/
theorem agree_pathText (hr : SameShape target.dialect r r')
    (hs : strict → ∀ t u, r = .value (.text t) → r' = .value (.text u) → t = u) :
    Agree (fun _ _ => True) strict (r.pathText ⟨target, p⟩) (r'.pathText ⟨target, q⟩) := by
  cases hr with
  | column h => exact .errors
  | array h => exact .throws _ _ _ _
  | null => exact .errors
  | malformed => exact .errors
  | @value v w h =>
    cases v with
    | text t =>
      cases w with
      | text u =>
        by_cases hs' : strict
        · obtain rfl := hs hs' t u rfl rfl
          simp only [pathText]
          split
          · exact .ok trivial
          · exact .errors
        · simp only [pathText]
          split <;> split
          · exact .ok trivial
          · exact .first hs'
          · exact .second hs'
          · exact .errors
      | _ => exact h.elim
    | _ => cases w <;> first | exact h.elim | exact .throws _ _ _ _

theorem agree_jsonPathExists (negated : Bool) (hl : SameShape target.dialect l l')
    (hr : SameShape target.dialect r r')
    (hs : strict → ∀ t u, r = .value (.text t) → r' = .value (.text u) → t = u) :
    Agree (Alike target.dialect) strict (jsonPathExists ⟨target, p⟩ negated l r)
      (jsonPathExists ⟨target, q⟩ negated l' r') := by
  unfold jsonPathExists
  refine (agree_pathText hr hs).bind fun path path' _ => ?_
  exact (agree_sql hl).bind fun u v hu => .ok (.nullCheck _ (hu.extract path path'))

theorem agree_between (negated : Bool) (hl : SameShape target.dialect l l')
    (hr : SameShape target.dialect r r') (written : Text) :
    Agree (Alike target.dialect) strict (between ⟨target, p⟩ negated l r written)
      (between ⟨target, q⟩ negated l' r' written) := by
  have sign : Alike target.dialect (if negated then " NOT BETWEEN ".toList else " BETWEEN ".toList)
      (if negated then " NOT BETWEEN ".toList else " BETWEEN ".toList) := by
    cases negated <;> exact .of_plain (by decide)
  have and : Alike target.dialect " AND ".toList " AND ".toList := .of_plain (by decide)
  unfold between
  cases hr with
  | column h => exact .errors
  | value h => exact .errors
  | null => exact .errors
  | malformed => exact .errors
  | @array vs ws h =>
    match vs, ws, h with
    | [], [], _ => exact .errors
    | [_], [_], _ => exact .errors
    | _ :: _ :: _ :: _, _ :: _ :: _ :: _, _ => exact .errors
    | [low, high], [low', high'], ⟨hlow, hhigh, _⟩ =>
      refine (agree_sql hl).bind fun s t hs => ?_
      refine (Value.agree_sql hlow).bind fun a b ha => ?_
      exact (Value.agree_sql hhigh).bind fun c e hc =>
        .ok ((((hs.append sign).append ha).append and).append hc)

theorem agree_ordering (op : Operator) (negated : Bool) (hl : SameShape target.dialect l l')
    (hr : SameShape target.dialect r r') :
    Agree (Alike target.dialect) strict (ordering ⟨target, p⟩ op negated l r)
      (ordering ⟨target, q⟩ op negated l' r') := by
  have sign : Alike target.dialect op.symbol op.symbol := by
    cases op <;> exact .of_plain (by decide)
  unfold ordering
  refine (agree_sql hl).bind fun s t hs => ?_
  exact (agree_sql hr).bind fun u v hu =>
    .ok (.negatedIf negated (hs.append (.cons_blank (sign.append (.cons_blank hu)))))

theorem checked_eq_ok {t u : Term} (h : t.checked = .ok u) : u = t := by
  cases t <;> cases h <;> rfl

theorem agree_compare (op : Operator) (negated : Bool) (hl : SameShape target.dialect l l')
    (hr : SameShape target.dialect r r') (written : Text)
    (hs : op = .jsonPathExists → strict →
      ∀ t u, r = .value (.text t) → r' = .value (.text u) → t = u) :
    Agree (Alike target.dialect) strict (compare ⟨target, p⟩ op negated l r written)
      (compare ⟨target, q⟩ op negated l' r' written) := by
  cases op with
  | equal => exact agree_equality negated hl hr
  | notEqual => exact agree_equality (!negated) hl hr
  | membership => exact agree_membership negated hl hr
  | contains => exact agree_pattern .contains negated hl hr
  | startsWith => exact agree_pattern .startsWith negated hl hr
  | endsWith => exact agree_pattern .endsWith negated hl hr
  | regexp => exact agree_regexp negated hl hr
  | jsonKeyExists => exact agree_jsonKeyExists negated hl hr
  | jsonPathExists => exact agree_jsonPathExists negated hl hr (hs rfl)
  | jsonContains => exact agree_jsonContains negated hl hr
  | jsonSearch => exact agree_jsonSearch negated hl hr
  | between => exact agree_between negated hl hr written
  | notBetween => exact agree_between (!negated) hl hr written
  | greater => exact agree_ordering .greater negated hl hr
  | less => exact agree_ordering .less negated hl hr
  | greaterOrEqual => exact agree_ordering .greaterOrEqual negated hl hr
  | lessOrEqual => exact agree_ordering .lessOrEqual negated hl hr

end Term

end QueryShorthand
