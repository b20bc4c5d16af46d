import QueryShorthand.Proofs.Condition.Rebinding
import QueryShorthand.Proofs.Join.Reading

/-! Joins compiled twice, under bags whose values have one shape. Without presets and sub-queries
the bags count only in the conditions. -/
namespace QueryShorthand

open Sql (Alike)

variable {target : Target} {p q : Parameters} {strict : Prop}

theorem Target.alike_tableName {table t : Text} (h : target.tableName table = .ok t) :
    Alike target.dialect t t := by
  unfold Target.tableName at h
  split at h <;> cases h
  exact .name _

namespace Join

theorem alike_reference : ∀ {source : Source} {t : Text}, source.reference target = .ok t →
    Alike target.dialect t t
  | .table _ (some _), _, h => by
    cases h
    exact .name _
  | .table _ none, _, h => Target.alike_tableName h
  | .preset _ _ _, _, h => by
    cases h
    exact .name _
  | .group [], _, h => by cases h
  | .group (.mk _ source _ :: _), t, h => by
    have hsource : source.reference target = .ok t := h
    exact alike_reference hsource

theorem alike_keyword {d : Dialect} (kind : Option Kind) :
    Alike d (kind.getD .inner).keyword (kind.getD .inner).keyword := by
  cases kind.getD .inner <;> exact .of_plain (by decide)

theorem agree_bracketSql (h : p.SameShape q) {first first' : Text}
    (hf : Alike target.dialect first first') (source : Source) (b : Bracket)
    (hs : ∀ c ∈ b.conditions, c.Sound)
    (hp : strict → ∀ c ∈ b.conditions, c.readsBoundPath p = false) :
    Agree (Alike target.dialect) strict (bracketSql ⟨target, p⟩ first source b)
      (bracketSql ⟨target, q⟩ first' source b) := by
  have on : Alike target.dialect " ON ".toList " ON ".toList := .of_plain (by decide)
  cases b with
  | condition c =>
    have hm : c ∈ (Bracket.condition c).conditions := List.mem_singleton.2 rfl
    refine (Condition.agree_sql h (hs c hm) fun hst => hp hst c hm).bind fun a b hab => ?_
    cases hab with
    | none => exact .errors
    | some hab => exact .ok (on.append hab)
  | merged columns =>
    have using_ : Alike target.dialect " USING ".toList " USING ".toList := .of_plain (by decide)
    exact .ok ((using_.append (.parens (.names columns))).congr (by simp; rfl) (by simp; rfl))
  | equal of columns =>
    have sign : Alike target.dialect " = ".toList " = ".toList := .of_plain (by decide)
    have qualified {t u : Text} (c : Text) (ht : Alike target.dialect t u) :=
      ht.append (.cons_glyph (c := '.') (by decide) (Alike.name (d := target.dialect) c))
    have pairs {l l' : Text} (hl : Alike target.dialect l l') : Agree (Alike target.dialect) strict
        (do
          let right ← source.reference target
          return " ON ".toList ++ Text.joined " AND ".toList (columns.map fun c => l ++ '.' ::
            (target.dialect.quoteName c ++ " = ".toList ++ right ++ '.' ::
              target.dialect.quoteName c)))
        (do
          let right ← source.reference target
          return " ON ".toList ++ Text.joined " AND ".toList (columns.map fun c => l' ++ '.' ::
            (target.dialect.quoteName c ++ " = ".toList ++ right ++ '.' ::
              target.dialect.quoteName c))) := by
      refine (Agree.same fun t ht => alike_reference ht).bind fun r r' hr => .ok (on.append ?_)
      refine .joined (.of_plain (by decide)) ?_
      rw [List.forall₂_map_left_iff, List.forall₂_map_right_iff]
      refine List.forall₂_same.2 fun c _ => ?_
      exact (((qualified c hl).append sign).append (qualified c hr)).congr (by simp) (by simp)
    cases of with
    | some table => exact pairs (.name table)
    | none => exact pairs hf

mutual

theorem agree_sourceSql (h : p.SameShape q) {j : Join} (hsub : j.subqueries = .empty)
    (hpre : j.presets = .empty) : ∀ {source : Source}, (∀ c ∈ source.conditions, c.Sound) →
    (strict → ∀ c ∈ source.conditions, c.readsBoundPath p = false) →
    Agree (Alike target.dialect) strict (source.sql j ⟨target, p⟩) (source.sql j ⟨target, q⟩)
  | .table name tableAlias, _, _ => by
    have hn : j.subqueries.get? name = none := by rw [hsub, Bindings.get?_empty]
    cases tableAlias with
    | none =>
      simp only [Source.sql, hn]
      exact .same fun _ => Target.alike_tableName
    | some a =>
      simp only [Source.sql, hn]
      refine (Agree.same fun _ => Target.alike_tableName).map fun t u ht => ?_
      exact (ht.append (.of_plain (t := " AS ".toList) (by decide))).append (.name a)
  | .preset _ tableAlias preset, _, _ => by
    rw [Source.sql, Source.sql, hpre, Bindings.get?_empty]
    exact .errors
  | .group steps, hs, hp => by
    rw [Source.sql, Source.sql]
    exact (agree_stepsSql h hsub hpre hs hp).map fun t u ht => .parens ht

theorem agree_stepsSql (h : p.SameShape q) {j : Join} (hsub : j.subqueries = .empty)
    (hpre : j.presets = .empty) : ∀ {steps : List Step}, (∀ c ∈ conditionsOf steps, c.Sound) →
    (strict → ∀ c ∈ conditionsOf steps, c.readsBoundPath p = false) →
    Agree (Alike target.dialect) strict (stepsSql j ⟨target, p⟩ steps)
      (stepsSql j ⟨target, q⟩ steps)
  | [], _, _ => .errors
  | .mk kind source bracket :: rest, hs, hp => by
    simp only [conditionsOf, List.forall_mem_append] at hs hp
    refine (Agree.same fun t ht => alike_reference ht).bind fun a b hf => ?_
    refine (agree_sourceSql h hsub hpre hs.1 fun hst => (hp hst).1).bind fun t u ht => ?_
    refine (agree_restSql h hsub hpre hf hs.2.2 fun hst => (hp hst).2.2).bind fun t' u' ht' => ?_
    exact .ok (ht.append ht')

theorem agree_restSql (h : p.SameShape q) {j : Join} (hsub : j.subqueries = .empty)
    (hpre : j.presets = .empty) {first first' : Text} (hf : Alike target.dialect first first') :
    ∀ {steps : List Step}, (∀ c ∈ conditionsOf steps, c.Sound) →
    (strict → ∀ c ∈ conditionsOf steps, c.readsBoundPath p = false) →
    Agree (Alike target.dialect) strict (restSql j ⟨target, p⟩ first steps)
      (restSql j ⟨target, q⟩ first' steps)
  | [], _, _ => .ok .nil
  | .mk kind source bracket :: rest, hs, hp => by
    simp only [conditionsOf, List.forall_mem_append] at hs hp
    refine (agree_sourceSql h hsub hpre hs.1 fun hst => (hp hst).1).bind fun t u ht => ?_
    have behind {x y : Compiled} (hm : Agree (Alike target.dialect) strict x y) :
        Agree (Alike target.dialect) strict
          (do
            let matching ← x
            let more ← restSql j ⟨target, p⟩ first rest
            return ' ' :: ((kind.getD .inner).keyword ++ ' ' :: (t ++ matching ++ more)))
          (do
            let matching ← y
            let more ← restSql j ⟨target, q⟩ first' rest
            return ' ' :: ((kind.getD .inner).keyword ++ ' ' :: (u ++ matching ++ more))) := by
      refine hm.bind fun m m' hm => ?_
      refine (agree_restSql h hsub hpre hf hs.2.2 fun hst => (hp hst).2.2).bind fun t' u'
        ht' => .ok ?_
      exact .cons_blank ((alike_keyword kind).append (.cons_blank ((ht.append hm).append ht')))
    cases bracket with
    | none => exact behind (.ok .nil)
    | some b => exact behind (agree_bracketSql h hf source b hs.2.1 fun hst => (hp hst).2.1)

end

end Join

end QueryShorthand
