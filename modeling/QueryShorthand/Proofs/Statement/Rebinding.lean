import QueryShorthand.Proofs.Join.Rebinding
import QueryShorthand.Proofs.Statement.Builder

/-! Statements under two bags that bind the same names to values of one shape. -/
namespace QueryShorthand

open Sql (Alike Compact)

variable {target : Target} {p q : Parameters} {strict : Prop}

namespace Statement

theorem alike_clause {d : Dialect} {keyword : Text}
    (hk : (keyword.all fun c => c == ' ' || Sql.isGlyph c) = true) {a b : Option Text}
    (h : Option.Rel (Alike d) a b) : Alike d (clause keyword a) (clause keyword b) := by
  cases h with
  | none => exact .nil
  | some h => exact .cons_blank (.append (.of_plain hk) (.cons_blank h))

theorem agree_conditionSql (h : p.SameShape q) {c : Option Condition}
    (hs : ∀ x, c = some x → x.Sound) (hp : strict → ∀ x, c = some x → x.readsBoundPath p = false) :
    Agree (Option.Rel (Alike target.dialect)) strict (conditionSql ⟨target, p⟩ c)
      (conditionSql ⟨target, q⟩ c) := by
  cases c with
  | none => exact .ok .none
  | some c => exact Condition.agree_sql h (hs c rfl) fun hst => hp hst c rfl

end Statement

theorem Select.agree_listSql {α : Type} {d : Dialect} {f g : α → Compiled} {items : List α}
    (h : ∀ i ∈ items, Agree (Alike d) strict (f i) (g i)) :
    Agree (Option.Rel (Alike d)) strict (listSql f items) (listSql g items) := by
  unfold listSql
  split
  · exact .ok .none
  · exact (Agree.mapM h).map fun ts us ht => .some (.list ht)

namespace Select

theorem agree_itemSql (h : p.SameShape q) {i : Item} (hs : i.operand.Sound) :
    Agree (Alike target.dialect) strict (i.sql ⟨target, p⟩) (i.sql ⟨target, q⟩) := by
  obtain ⟨o, label⟩ := i
  refine (Operand.agree_sql h hs).bind fun t u ht => ?_
  cases label with
  | none => exact .ok ht
  | some label =>
    exact .ok ((ht.append (.of_plain (t := " AS ".toList) (by decide))).append (.name label))

theorem agree_orderItemSql (h : p.SameShape q) {i : OrderItem}
    (hs : ∀ c ∈ i.key.conditions, c.Sound)
    (hp : strict → ∀ c ∈ i.key.conditions, c.readsBoundPath p = false) :
    Agree (Alike target.dialect) strict (i.sql ⟨target, p⟩) (i.sql ⟨target, q⟩) := by
  obtain ⟨key, descending⟩ := i
  have direction : Alike target.dialect (if descending then " DESC".toList else " ASC".toList)
      (if descending then " DESC".toList else " ASC".toList) := by
    cases descending <;> exact .of_plain (by decide)
  have keys : Agree (Alike target.dialect) strict (key.sql ⟨target, p⟩) (key.sql ⟨target, q⟩) := by
    cases key with
    | column c => exact .ok c.alike_sql
    | condition c =>
      have hm : c ∈ (OrderKey.condition c).conditions := List.mem_singleton.2 rfl
      refine (Condition.agree_sql h (hs c hm) fun hst => hp hst c hm).bind fun a b hab => ?_
      cases hab with
      | none => exact .errors
      | some hab => exact .ok hab
  exact keys.bind fun t u ht => .ok (ht.append direction)

theorem agree_tablesSql (h : p.SameShape q) {s : Select} (hs : s.Sound)
    (hp : strict → ∀ c ∈ s.tables.elim [] Join.conditions, c.readsBoundPath p = false) :
    Agree (Option.Rel (Alike s.context.target.dialect)) strict
      (tablesSql { s with context := { s.context with params := p } })
      (tablesSql { s with context := { s.context with params := q } }) := by
  unfold tablesSql
  cases ht : s.tables with
  | none => exact .ok .none
  | some j =>
    rw [ht] at hp
    obtain ⟨hsub, hpre⟩ := hs.tables j ht
    have hj := hs.joined
    rw [ht] at hj
    exact (Join.agree_stepsSql h hsub hpre hj hp).map fun t u ht => .some ht

theorem agree_sql (h : p.SameShape q) {s : Select} (hs : s.Sound)
    (hp : strict → ∀ c ∈ s.conditions, c.readsBoundPath p = false) :
    Agree (Alike s.context.target.dialect) strict
      (Select.sql { s with context := { s.context with params := p } })
      (Select.sql { s with context := { s.context with params := q } }) := by
  simp only [conditions, List.forall_mem_append, Option.mem_toList, List.forall_mem_flatMap] at hp
  have keyword {t : Text} (ht : (t.all fun c => c == ' ' || Sql.isGlyph c) = true) :
      Alike s.context.target.dialect t t := .of_plain ht
  have distinct : Alike s.context.target.dialect (if s.distinct then "DISTINCT ".toList else [])
      (if s.distinct then "DISTINCT ".toList else []) := by
    split
    · exact keyword (by decide)
    · exact .nil
  refine (Agree.mapM fun i hi => agree_itemSql h (hs.items i hi)).bind fun is is' hi => ?_
  refine (agree_tablesSql h hs fun hst => (hp hst).1).bind fun f f' hf => ?_
  refine (Statement.agree_conditionSql h hs.condition fun hst => (hp hst).2.1).bind fun c c'
    hc => ?_
  refine (agree_listSql fun o ho => Operand.agree_sql h (hs.grouping o ho)).bind fun g g' hg => ?_
  refine (Statement.agree_conditionSql h hs.having fun hst => (hp hst).2.2.1).bind fun v v' hv => ?_
  refine (agree_listSql fun i hi => agree_orderItemSql h (hs.order i hi) fun hst =>
    (hp hst).2.2.2 i hi).bind fun o o' ho => .ok ?_
  refine Alike.append ?_ ?limit
  case limit =>
    unfold limitSql
    cases s.limit with
    | none => exact .nil
    | some length => exact .cons_blank (Sql.alike_limit _ _)
  refine Alike.append ?_ (Statement.alike_clause (by decide) ho)
  refine Alike.append ?_ (Statement.alike_clause (by decide) hv)
  refine Alike.append ?_ (Statement.alike_clause (by decide) hg)
  refine Alike.append ?_ (Statement.alike_clause (by decide) hc)
  refine Alike.append ?_ (Statement.alike_clause (by decide) hf)
  exact ((keyword (by decide)).append distinct).append (.list hi)

end Select

namespace Insert

theorem agree_boundSql (h : p.SameShape q) (column : Text) :
    Agree (Alike target.dialect) strict (boundSql ⟨target, p⟩ column)
      (boundSql ⟨target, q⟩ column) := by
  have hc := h column
  unfold boundSql
  cases hp : p.get? column <;> cases hq : q.get? column <;> rw [hp, hq] at hc
  · exact Value.agree_sql (v := .null) (w := .null) trivial
  · cases hc
  · cases hc
  · cases hc with
    | some hc => exact Value.agree_sql hc

theorem agree_sql (h : p.SameShape q) (s : Insert) :
    Agree (Alike s.context.target.dialect) strict
      (Insert.sql { s with context := { s.context with params := p } })
      (Insert.sql { s with context := { s.context with params := q } }) := by
  have into : Alike s.context.target.dialect " INTO ".toList " INTO ".toList :=
    .of_plain (by decide)
  have verb : Alike s.context.target.dialect
      (if s.replace then "REPLACE".toList else "INSERT".toList)
      (if s.replace then "REPLACE".toList else "INSERT".toList) := by
    cases s.replace <;> exact .of_plain (by decide)
  have rows {ts us : List Text} (h : List.Forall₂ (Alike s.context.target.dialect) ts us) :
      Alike s.context.target.dialect (" (".toList
        ++ Text.joined ", ".toList (s.columns.map s.context.target.dialect.quoteName)
        ++ ") VALUES (".toList ++ Text.joined ", ".toList ts ++ [')'])
        (" (".toList ++ Text.joined ", ".toList (s.columns.map s.context.target.dialect.quoteName)
        ++ ") VALUES (".toList ++ Text.joined ", ".toList us ++ [')']) := by
    have values : Alike s.context.target.dialect " VALUES ".toList " VALUES ".toList :=
      .of_plain (by decide)
    exact (Alike.cons_blank ((Alike.parens (.names s.columns)).append
      (values.append (.parens (.list h))))).congr (by simp) (by simp)
  unfold Insert.sql
  dsimp only [Context.dialect]
  split
  · exact .errors
  refine (Agree.mapM fun c _ => agree_boundSql h c).bind fun vs ws hv => ?_
  refine (Agree.same fun _ => Target.alike_tableName).bind fun t t' ht => ?_
  have insert := (((verb.append into).append ht).append (rows hv))
  simp only [← List.append_assoc] at insert
  split
  · exact .ok insert
  · refine (Agree.same fun _ => Sql.alike_upsert).bind fun u u' hu => .ok ?_
    exact insert.append (.cons_blank hu)

end Insert

namespace Update

theorem agree_assignmentSql (h : p.SameShape q) {a : Assignment} (hs : a.Sound) :
    Agree (Alike target.dialect) strict (a.sql ⟨target, p⟩) (a.sql ⟨target, q⟩) := by
  obtain ⟨column, op, value⟩ := a
  have sign : Alike target.dialect " = ".toList " = ".toList := .of_plain (by decide)
  have values :
      Agree (Alike target.dialect) strict (value.sql ⟨target, p⟩) (value.sql ⟨target, q⟩) := by
    cases value with
    | number t => exact .ok (Compact.of_glyphs hs.value).alike
    | operand o => exact Operand.agree_sql h hs.value
  refine values.bind fun t u ht => ?_
  have assigned := (Alike.name (d := target.dialect) column).append sign
  cases op with
  | none => exact .ok (assigned.append ht)
  | some op =>
    exact .ok ((assigned.append (.name column)).append
      (.cons_blank (.cons_glyph (hs.op op rfl) (.cons_blank ht))))

theorem agree_sql (h : p.SameShape q) {s : Update} (hs : s.Sound)
    (hp : strict → ∀ c, s.condition = some c → c.readsBoundPath p = false) :
    Agree (Alike s.context.target.dialect) strict
      (Update.sql { s with context := { s.context with params := p } })
      (Update.sql { s with context := { s.context with params := q } }) := by
  have keyword {t : Text} (ht : (t.all fun c => c == ' ' || Sql.isGlyph c) = true) :
      Alike s.context.target.dialect t t := .of_plain ht
  refine (Agree.mapM fun a ha => agree_assignmentSql h (hs.assignments a ha)).bind fun as as'
    ha => ?_
  refine (Agree.same fun _ => Target.alike_tableName).bind fun t t' ht => ?_
  refine (Statement.agree_conditionSql h hs.condition hp).bind fun c c' hc => .ok ?_
  refine Alike.append ?_ (Statement.alike_clause (by decide) hc)
  exact (((keyword (by decide)).append ht).append (keyword (by decide))).append (.list ha)

end Update

namespace Delete

theorem agree_sql (h : p.SameShape q) {s : Delete} (hs : s.Sound)
    (hp : strict → ∀ c, s.filter = some c → c.readsBoundPath p = false) :
    Agree (Alike s.context.target.dialect) strict
      (Delete.sql { s with context := { s.context with params := p } })
      (Delete.sql { s with context := { s.context with params := q } }) := by
  have filters {x y : Except Error (Option Text)}
      (hxy : Agree (Option.Rel (Alike s.context.target.dialect)) strict x y) :
      Agree (Alike s.context.target.dialect) strict
        (do
          let condition ← x
          let table ← s.context.target.tableName s.table
          return "DELETE FROM ".toList ++ table ++ Statement.clause "WHERE".toList condition)
        (do
          let condition ← y
          let table ← s.context.target.tableName s.table
          return "DELETE FROM ".toList ++ table ++ Statement.clause "WHERE".toList condition) := by
    refine hxy.bind fun c c' hc => ?_
    refine (Agree.same fun _ => Target.alike_tableName).bind fun t t' ht => .ok ?_
    exact ((Alike.of_plain (by decide)).append ht).append (Statement.alike_clause (by decide) hc)
  obtain ⟨ctx, table, byColumns, condition⟩ := s
  cases condition with
  | some c =>
    exact filters (Condition.agree_sql h (hs.condition c rfl) fun hst => hp hst c rfl)
  | none =>
    exact filters (Statement.agree_conditionSql h hs.byColumns fun hst c hc => hp hst c hc)

end Delete

namespace Statement

def conditions : Statement → List Condition
  | select s => s.conditions
  | insert _ => []
  | update s => s.condition.toList
  | delete s => s.filter.toList
  | raw _ => []

/-- A `:=` comparison of the statement reads a bound value. -/
def readsBoundPath (p : Parameters) (s : Statement) : Bool :=
  s.conditions.any (Condition.readsBoundPath p)

theorem agree_sql (h : p.SameShape q) {s : Statement} (hs : s.Sound)
    (hp : strict → s.readsBoundPath p = false) :
    Agree (Alike s.target.dialect) strict (s.withParams p).sql (s.withParams q).sql := by
  simp only [readsBoundPath, List.any_eq_false, Bool.not_eq_true] at hp
  cases s with
  | select s => exact Select.agree_sql h hs hp
  | insert s => exact Insert.agree_sql h s
  | update s => exact Update.agree_sql h hs (by simpa [conditions] using hp)
  | delete s => exact Delete.agree_sql h hs (by simpa [conditions] using hp)
  | raw s => exact hs.elim

theorem skeleton_of_rebinding {s : Statement} (hs : s.Plain) (h : p.SameShape q) :
    (∀ t u, (s.withParams p).sql = .ok t → (s.withParams q).sql = .ok u →
      Sql.skeleton s.target.dialect t = Sql.skeleton s.target.dialect u) ∧
    (s.readsBoundPath p = false → (s.withParams p).sql.isOk = (s.withParams q).sql.isOk) := by
  constructor
  · intro t u ht hu
    have agree : Agree (Alike s.target.dialect) False (s.withParams p).sql (s.withParams q).sql :=
      agree_sql h hs.sound False.elim
    exact (agree.related ht hu).skeleton_eq
  · intro hp
    have agree : Agree (Alike s.target.dialect) True (s.withParams p).sql (s.withParams q).sql :=
      agree_sql h hs.sound fun _ => hp
    exact agree.isOk_eq trivial

theorem skeleton_of_rebinding_query : ∃ s : Statement, s.Plain ∧ ∃ p q : Parameters, p.SameShape q ∧
    (s.withParams p).sql = .ok "SELECT * WHERE `a` = 'x'".toList ∧
    (s.withParams q).sql = .ok "SELECT * WHERE `a` = 'it''s \\\\'".toList ∧
    Sql.skeleton s.target.dialect "SELECT * WHERE `a` = 'x'".toList =
      Sql.skeleton s.target.dialect "SELECT * WHERE `a` = 'it''s \\\\'".toList ∧
    (s.withParams p).sql.isOk = (s.withParams q).sql.isOk := by
  let build : Except Error Select := do
    (← Select.start {} "*".toList).apply (.condition "a=:b".toList)
  let p : Parameters := Bindings.empty.insert ['b'] (.text ['x'])
  let q : Parameters := Bindings.empty.insert ['b'] (.text "it's \\".toList)
  have hp : (build >>= fun s => ((select s).withParams p).sql) =
      .ok "SELECT * WHERE `a` = 'x'".toList := by decide +kernel
  have hq : (build >>= fun s => ((select s).withParams q).sql) =
      .ok "SELECT * WHERE `a` = 'it''s \\\\'".toList := by decide +kernel
  have hpath : build.map (fun s => (select s).readsBoundPath p) = .ok false := by decide +kernel
  have same : p.SameShape q := by
    intro name
    rw [Bindings.get?_insert, Bindings.get?_insert]
    split
    · exact .some trivial
    · exact .none
  obtain ⟨s, hs, ht⟩ := exists_of_bind_eq_ok hp
  rw [hs] at hq hpath
  obtain ⟨s₀, hstart, happly⟩ := exists_of_bind_eq_ok hs
  have plain : (select s).Plain := .select (.startSelect hstart) rfl happly
  exact ⟨_, plain, p, q, same, ht, hq, (skeleton_of_rebinding plain same).1 _ _ ht hq,
    (skeleton_of_rebinding plain same).2 (Except.ok.inj hpath)⟩

end Statement

end QueryShorthand
