import QueryShorthand.Proofs.Condition.Comparison
import QueryShorthand.Proofs.Condition.Composition
import QueryShorthand.Proofs.Condition.Writing
import QueryShorthand.Proofs.Sql.Literal
import QueryShorthand.Proofs.Statement.Builder
import QueryShorthand.Proofs.Statement.Names

/-! What a DELETE deletes, by columns and with a condition in their place. -/
namespace QueryShorthand

namespace Expr

theorem WritesClips.read {es : List Expr} {t : Text} (h : WritesClips es t) :
    Condition.read t = .ok ⟨t, some (collapsed all es)⟩ := by
  obtain ⟨f, fs, rfl, hi⟩ := h.items
  rw [hi.read, Condition.ofItems, alternatives_conjoined]
  rfl

theorem sqlAll_eq_mapM {ctx : Context} (es : List Expr) :
    sqlAll ctx es = es.mapM fun e => e.sql ctx := by
  induction es with
  | nil => rfl
  | cons e es ih =>
    rw [sqlAll, ih, List.mapM_cons]

end Expr

namespace Delete

open Statement (IsColumn WritesNames)

variable {ctx : Context} {target : Target} {s : Delete} {table name t sql : Text}
  {names : List Text}

def comparison (name : Text) : Expr := .compare (.column { name }) .equal .auto

/-- What a column contributes to the filter. -/
inductive Conjunct (ctx : Context) (name : Text) : Text → Prop where
  | null (h : ∀ v, ctx.params.get? name = some v → v = .null ∨ v = .array []) :
      Conjunct ctx name (ctx.quoteName name ++ " IS NULL".toList)
  | among {vs : List Value} {ts : List Text} (h : ctx.params.get? name = some (.array vs))
      (hne : vs ≠ []) (hts : List.Forall₂ (fun v t => v.sql ctx.dialect = .ok t) vs ts) :
      Conjunct ctx name (ctx.quoteName name ++ " IN(".toList ++ Text.joined ", ".toList ts ++ [')'])
  | equal {v : Value} {t : Text} (h : ctx.params.get? name = some v) (hnull : v ≠ .null)
      (harray : ∀ vs, v ≠ .array vs) (ht : v.sql ctx.dialect = .ok t) :
      Conjunct ctx name (ctx.quoteName name ++ " = ".toList ++ t)

theorem writesClips_columnsText (hne : names ≠ []) (hn : ∀ n ∈ names, IsColumn n) :
    Expr.WritesClips (names.map comparison) (columnsText names) := by
  have clip {n : Text} (h : IsColumn n) :
      Expr.WritesClip (comparison n) (Text.quoted backtick n ++ ['=', '?']) := by
    have hnull : Operand.isNullWord (Text.quoted backtick n) = false :=
      Operand.not_isNullWord List.mem_cons_self (by decide)
    have hatom : Expr.WritesAtom (comparison n)
        (Text.quoted backtick n ++ ([] ++ (Operator.equal.symbol ++ ([] ++ ['?'])))) :=
      .compare (.column (.plain (.quoted h.1) h.2) hnull) Text.blank_nil Text.blank_nil .auto rfl
        (by simp [Operand.isParameter])
    have hclip : Expr.WritesClip (Expr.negated 0 (comparison n)) ([] ++ (_ ++ [])) :=
      .mk rfl hatom Text.blank_nil
    simpa [Expr.negated, Operator.symbol] using hclip
  induction names with
  | nil => exact absurd rfl hne
  | cons n names ih =>
    obtain ⟨hname, hnames⟩ := List.forall_mem_cons.1 hn
    cases names with
    | nil => simpa [columnsText, Text.joined] using Expr.WritesClips.last (clip hname)
    | cons m names =>
      have hmore := Expr.WritesClips.more (clip hname) (ih (by simp) hnames)
      simpa [columnsText, Text.joined, List.intercalate_cons_cons] using hmore

theorem read_columnsText (hne : names ≠ []) (hn : ∀ n ∈ names, IsColumn n) :
    Condition.read (columnsText names) =
      .ok ⟨columnsText names, some (Expr.collapsed .all (names.map comparison))⟩ :=
  (writesClips_columnsText hne hn).read

theorem sql_comparison (hname : name ≠ ['*']) : (comparison name).sql ctx =
    match ctx.params.get? name with
    | none | some .null => .ok (ctx.quoteName name ++ " IS NULL".toList)
    | some (.array vs) => Term.among ctx false (ctx.quoteName name) vs
    | some v => (v.sql ctx.dialect).map fun t => ctx.quoteName name ++ " = ".toList ++ t := by
  have hcolumn : ({ name } : Column).sql ctx = ctx.quoteName name := by
    have hwild : ({ name } : Column).isWildcard = false := by simpa [Column.isWildcard] using hname
    simp [Column.sql, hwild]
  have hterms : (comparison name).sql ctx = (do
      let value ← Term.bound ctx name
      let value ← value.checked
      Term.equality ctx false (.column (ctx.quoteName name)) value) := by
    rw [← hcolumn]
    rfl
  rw [hterms, Term.bound]
  cases ctx.params.get? name with
  | none => rfl
  | some v =>
    cases v with
    | null => rfl
    | array vs => rfl
    | bool b => rfl
    | int n => rfl
    | text t => rfl
    | json j => rfl
    | float x =>
      show Except.bind ((Value.float x).sql ctx.dialect) _ =
        Except.map _ ((Value.float x).sql ctx.dialect)
      cases (Value.float x).sql ctx.dialect <;> rfl
    | statement nested =>
      simp only [Term.ofValue]
      cases (Value.statement nested).sql ctx.dialect <;> rfl

theorem among_eq_ok_iff {column : Text} {vs : List Value} (hne : vs ≠ []) :
    Term.among ctx false column vs = .ok t ↔
      ∃ ts, List.Forall₂ (fun v t => v.sql ctx.dialect = .ok t) vs ts ∧
        t = column ++ " IN(".toList ++ Text.joined ", ".toList ts ++ [')'] := by
  have hempty : ¬ vs.isEmpty = true := by simpa using hne
  rw [Term.among, if_neg hempty]
  constructor
  · intro h
    obtain ⟨ts, hts, h⟩ := exists_of_bind_eq_ok h
    cases h
    exact ⟨ts, Term.valueList_eq_ok_iff.1 hts, by simp [Term.inWord]⟩
  · rintro ⟨ts, hts, rfl⟩
    rw [Term.valueList_eq_ok_iff.2 hts]
    simp [Term.inWord, bind, Except.bind, pure, Except.pure]

theorem sql_comparison_iff (hname : name ≠ ['*']) :
    (comparison name).sql ctx = .ok t ↔ Conjunct ctx name t := by
  rw [sql_comparison hname]
  constructor
  · intro h
    split at h
    · next hbound =>
      cases h
      exact .null (by simp [hbound])
    · next hbound =>
      cases h
      exact .null (by simp [hbound])
    · next vs hbound =>
      by_cases hvs : vs = []
      · subst hvs
        cases h
        exact .null (by simp [hbound])
      · obtain ⟨ts, hts, rfl⟩ := (among_eq_ok_iff hvs).1 h
        exact .among hbound hvs hts
    · next v hnull harray hbound =>
      obtain ⟨t, ht, rfl⟩ := exists_of_map_eq_ok h
      exact .equal hbound hnull harray ht
  · intro h
    cases h with
    | null h =>
      cases hbound : ctx.params.get? name with
      | none => rfl
      | some v => rcases h v hbound with rfl | rfl <;> rfl
    | among h hne hts =>
      rw [h]
      exact (among_eq_ok_iff hne).2 ⟨_, hts, rfl⟩
    | equal h hnull harray ht =>
      rw [h]
      split
      · next heq => cases heq
      · next heq => exact absurd (Option.some.inj heq) hnull
      · next vs heq => exact absurd (Option.some.inj heq) (harray vs)
      · next heq =>
        cases heq
        rw [ht]
        rfl

theorem forall₂_conjunct {ts : List Text} (hn : ∀ n ∈ names, IsColumn n) :
    List.Forall₂ (fun n t => (comparison n).sql ctx = .ok t) names ts ↔
      List.Forall₂ (Conjunct ctx) names ts := by
  induction names generalizing ts with
  | nil => simp
  | cons n names ih =>
    obtain ⟨hname, hnames⟩ := List.forall_mem_cons.1 hn
    cases ts with
    | nil => simp
    | cons t ts => rw [List.forall₂_cons, List.forall₂_cons, sql_comparison_iff hname.2, ih hnames]

theorem sql_byColumns (hn : ∀ n ∈ names, IsColumn n) :
    (Expr.collapsed .all (names.map comparison)).sql ctx = .ok sql ↔
      ∃ ts, List.Forall₂ (Conjunct ctx) names ts ∧ sql = Text.joined " AND ".toList ts := by
  have hconjuncts (ts : List Text) :
      Expr.sqlAll ctx (names.map comparison) = .ok ts ↔ List.Forall₂ (Conjunct ctx) names ts := by
    rw [Expr.sqlAll_eq_mapM, mapM_eq_ok_iff, List.forall₂_map_left_iff, forall₂_conjunct hn]
  rw [Expr.sql_collapsed_all, Expr.joinedSql]
  constructor
  · intro h
    obtain ⟨ts, hts, rfl⟩ := exists_of_map_eq_ok h
    exact ⟨ts, (hconjuncts ts).1 hts, rfl⟩
  · rintro ⟨ts, hts, rfl⟩
    rw [(hconjuncts ts).2 hts]
    rfl

theorem sql_eq_ok_iff : s.sql = .ok sql ↔ s.table ≠ [] ∧
    ∃ condition, Statement.conditionSql s.context s.filter = .ok condition ∧
      sql = "DELETE FROM ".toList ++
        s.context.dialect.quoteName (s.context.target.tablePrefix ++ s.table) ++
        Statement.clause "WHERE".toList condition := by
  have hsql : s.sql = (do
      let condition ← Statement.conditionSql s.context s.filter
      let table ← s.context.target.tableName s.table
      return "DELETE FROM ".toList ++ table ++ Statement.clause "WHERE".toList condition) := by
    rw [Delete.sql, filter]
    cases s.condition <;> rfl
  rw [hsql, Target.tableName]
  by_cases htable : s.table = []
  · rw [if_pos htable]
    cases Statement.conditionSql s.context s.filter <;> simp [htable, bind, Except.bind]
  · rw [if_neg htable]
    cases Statement.conditionSql s.context s.filter with
    | error e => simp [bind, Except.bind]
    | ok condition =>
      simp [htable, bind, Except.bind, pure, Except.pure, Context.dialect, eq_comm]

theorem start_eq (htable : table ≠ []) (hnames : Statement.columnNames t = .ok names)
    (hne : names ≠ []) : start target table t = .ok {
      context := { target }
      table
      byColumns :=
        some ⟨columnsText names, some (Expr.collapsed .all (names.map comparison))⟩ } := by
  have hempty : names.isEmpty = false := by simpa using hne
  have hread := read_columnsText hne (Statement.isColumn_of_columnNames hnames)
  simp only [start, Target.tableName, if_neg htable, hnames, hempty, hread, bind, Except.bind]
  rfl

/-- A DELETE by columns compares each of them with the value bound under its name, and nothing
else. -/
theorem sql_of_columns (htable : table ≠ []) (hn : ∀ n ∈ names, IsColumn n)
    (h : WritesNames names t) :
    ∃ s, start target table t = .ok s ∧ ∀ params sql,
      ((Statement.delete s).withParams params).sql = .ok sql ↔
        ∃ conjuncts, List.Forall₂ (Conjunct ⟨target, params⟩) names conjuncts ∧
          sql = "DELETE FROM ".toList ++ target.dialect.quoteName (target.tablePrefix ++ table) ++
            " WHERE ".toList ++ Text.joined " AND ".toList conjuncts := by
  refine ⟨_, start_eq htable (Statement.columnNames_of_writes h hn) h.ne_nil, fun params sql => ?_⟩
  rw [Statement.withParams, Statement.withContext, Statement.sql, sql_eq_ok_iff]
  constructor
  · rintro ⟨-, condition, hcondition, rfl⟩
    obtain ⟨t, ht, rfl⟩ := exists_of_map_eq_ok hcondition
    obtain ⟨conjuncts, hconjuncts, rfl⟩ := (sql_byColumns hn).1 ht
    exact ⟨conjuncts, hconjuncts, by simp [Statement.clause]; rfl⟩
  · rintro ⟨conjuncts, hconjuncts, rfl⟩
    have ht : (Expr.collapsed .all (names.map comparison)).sql ⟨target, params⟩ = .ok _ :=
      (sql_byColumns hn).2 ⟨conjuncts, hconjuncts, rfl⟩
    refine ⟨htable, some _, congrArg (Except.map some) ht, ?_⟩
    simp [Statement.clause]
    rfl

theorem sql_of_columns_mixed : ∃ s, start {} ['t'] "`a,=\\`` , c".toList = .ok s ∧
    ((Statement.delete s).withParams
      (Bindings.empty.insert ['c'] (.array [.bool true, .text ['x']]))).sql =
      .ok "DELETE FROM `t` WHERE `a,=``` IS NULL AND `c` IN(1, 'x')".toList := by
  have space : Text.Blank [' '] := Text.forall_mem_of_all (by decide)
  have names : WritesNames ["a,=`".toList, ['c']]
      ([] ++ (Text.quoted backtick "a,=`".toList ++ [' ']) ++ ',' :: ([' '] ++ (['c'] ++ []))) :=
    .more Text.blank_nil (.quoted (by decide)) space
      (.last space (.bare ⟨'c', [], rfl, by decide, by simp⟩) Text.blank_nil)
  have columns : ∀ n ∈ ["a,=`".toList, ['c']], IsColumn n := by simp [IsColumn]
  obtain ⟨s, hs, hsql⟩ := @sql_of_columns {} ['t'] _ _ (by simp) columns names
  generalize hv : Value.array [.bool true, .text ['x']] = v
  have hget (name : Text) : (Bindings.empty.insert ['c'] v).get? name = if name = ['c'] then some v
      else none := by
    rw [Bindings.get?_insert, Bindings.get?_empty]
  have unbound :
      Conjunct ⟨{}, Bindings.empty.insert ['c'] v⟩ "a,=`".toList "`a,=``` IS NULL".toList :=
    .null (by simp [hget])
  have bound : Conjunct ⟨{}, Bindings.empty.insert ['c'] v⟩ ['c'] "`c` IN(1, 'x')".toList := by
    subst hv
    exact @Conjunct.among _ _ [.bool true, .text ['x']] [['1'], "'x'".toList] (hget _) (by simp)
      (.cons rfl (.cons rfl .nil))
  exact ⟨s, hs, (hsql _ _).2 ⟨_, .cons unbound (.cons bound .nil), rfl⟩⟩

/-- Without a table there is nothing to delete from. -/
theorem not_start_of_no_table : ∃ names t, WritesNames names t ∧ (∀ n ∈ names, IsColumn n) ∧
    ∀ s, start {} [] t ≠ .ok s := by
  have name : WritesNames [['a']] ([] ++ (Text.quoted backtick ['a'] ++ [])) :=
    .last Text.blank_nil (.quoted (by simp)) Text.blank_nil
  refine ⟨_, _, name, by simp [IsColumn], fun s hs => ?_⟩
  cases hs

/-- A step of a caller that succeeds. -/
inductive Step : Delete → Delete → Prop where
  | condition {s s' : Delete} {source : Text} (h : s.withCondition source = .ok s') : Step s s'
  | assign {s s' : Delete} (name : Text) (v : Value)
      (h : (Statement.delete s).assign name v = .delete s') : Step s s'
  | merge {s s' : Delete} (values : List (Text × Value))
      (h : (Statement.delete s).merge values = .delete s') : Step s s'
  | bind {s s' : Delete} (name : Text) (nested : Nested)
      (h : (Statement.delete s).bind name nested = .delete s') : Step s s'

inductive Run : Delete → Delete → Prop where
  | nil (s : Delete) : Run s s
  | cons {s s' s'' : Delete} (h : Step s s') (hr : Run s' s'') : Run s s''

structure SameRows (s s' : Delete) : Prop where
  target : s'.context.target = s.context.target
  table : s'.table = s.table
  byColumns : s'.byColumns = s.byColumns

theorem Step.sameRows {s s' : Delete} (h : Step s s') : SameRows s s' := by
  cases h with
  | condition h =>
    obtain ⟨c, -, h⟩ := exists_of_bind_eq_ok h
    cases h
    exact ⟨rfl, rfl, rfl⟩
  | assign _ _ h =>
    cases h
    exact ⟨rfl, rfl, rfl⟩
  | merge _ h =>
    cases h
    exact ⟨rfl, rfl, rfl⟩
  | bind _ _ h =>
    cases h
    exact ⟨rfl, rfl, rfl⟩

theorem Run.sameRows {s s' : Delete} (h : Run s s') : SameRows s s' := by
  induction h with
  | nil => exact ⟨rfl, rfl, rfl⟩
  | cons h _ ih =>
    have hstep := h.sameRows
    exact ⟨ih.target.trans hstep.target, ih.table.trans hstep.table,
      ih.byColumns.trans hstep.byColumns⟩

/-- The condition of a DELETE, read off its SQL. -/
def whereText? (d : Dialect) (sql : Text) : Option Text := do
  let r ← Text.after? "DELETE FROM ".toList sql
  let (_, r) ← Sql.name? d r
  Text.after? " WHERE ".toList r

theorem whereText?_sql (h : s.sql = .ok sql) :
    Statement.conditionSql s.context s.filter = .ok (whereText? s.context.dialect sql) := by
  obtain ⟨-, condition, hcondition, rfl⟩ := sql_eq_ok_iff.1 h
  rw [hcondition]
  generalize hclause : Statement.clause "WHERE".toList condition = clause
  have hquote : clause.head? ≠ some s.context.dialect.nameQuote := by
    subst hclause
    cases condition with
    | none => simp [Statement.clause]
    | some t => cases s.context.dialect <;> simp [Statement.clause, Dialect.nameQuote]
  have hname := Sql.name?_quoteName (t := s.context.target.tablePrefix ++ s.table) hquote
  have hlead := Text.after?_eq_some_iff.2 (List.append_assoc "DELETE FROM ".toList
    (s.context.dialect.quoteName (s.context.target.tablePrefix ++ s.table)) clause)
  have hwhere : Text.after? " WHERE ".toList clause = condition := by
    subst hclause
    cases condition with
    | none => rfl
    | some t => exact Text.after?_eq_some_iff.2 rfl
  simp only [whereText?, hlead, hname, hwhere, Option.bind_eq_bind, Option.bind_some]

theorem isSome_of_sql {c : Condition} {text : Option Text}
    (h : Statement.conditionSql ctx (some c) = .ok text) : text.isSome = !c.isEmpty := by
  obtain ⟨source, expr⟩ := c
  cases expr with
  | none =>
    cases h
    rfl
  | some e =>
    obtain ⟨t, -, rfl⟩ := exists_of_map_eq_ok h
    rfl

/-- Only an empty condition of its own takes the filter from a DELETE by columns. -/
theorem filtered_iff_of_run {s₀ : Delete} {columns : Text}
    (hnames : Statement.columnNames columns = .ok names) (hne : names ≠ [])
    (h : start target table columns = .ok s₀) (hr : Run s₀ s) (hs : s.sql = .ok sql) :
    (whereText? target.dialect sql).isSome = true ↔
      ∀ c, s.condition = some c → c.isEmpty = false := by
  have htable : table ≠ [] := by
    rintro rfl
    obtain ⟨_, hname, -⟩ := exists_of_bind_eq_ok h
    cases hname
  rw [start_eq htable hnames hne] at h
  cases h
  obtain ⟨htarget, -, hcolumns⟩ := hr.sameRows
  have hwhere := whereText?_sql hs
  have hdialect : s.context.dialect = target.dialect := congrArg Target.dialect htarget
  rw [hdialect] at hwhere
  cases hcondition : s.condition with
  | none =>
    have hfilter : s.filter =
        some ⟨columnsText names, some (Expr.collapsed .all (names.map comparison))⟩ := by
      rw [filter, hcondition, hcolumns]
      rfl
    rw [hfilter] at hwhere
    have hsome := isSome_of_sql hwhere
    simpa [Condition.isEmpty] using hsome
  | some c =>
    have hfilter : s.filter = some c := by
      rw [filter, hcondition]
      rfl
    rw [hfilter] at hwhere
    have hsome := isSome_of_sql hwhere
    simp [hsome]

theorem columnNames_id : Statement.columnNames "id".toList = .ok ["id".toList] := by
  have hword : Name.IsWord "id".toList := ⟨'i', ['d'], rfl, by decide, by simp; decide⟩
  have hwrites : WritesNames ["id".toList] ([] ++ ("id".toList ++ [])) :=
    .last Text.blank_nil (.bare hword) Text.blank_nil
  exact Statement.columnNames_of_writes hwrites (by simp [IsColumn])

theorem withCondition_eq {source : Text} {c : Condition} (h : Condition.read source = .ok c) :
    s.withCondition source = .ok { s with condition := some c } := by
  rw [withCondition, h]
  rfl

/-- A value is bound, and a condition takes the place of the one by columns. -/
theorem filtered_iff_of_run_replaced : ∃ s₀ s sql, start {} ['t'] "id".toList = .ok s₀ ∧ Run s₀ s ∧
    s.sql = .ok sql ∧ (whereText? .mysql sql).isSome = true := by
  have hstart := @start_eq {} ['t'] _ _ (by simp) columnNames_id (by simp)
  have hflag : Expr.WritesAtom (.flag (.column { name := ['a'] })) ['a'] :=
    .flag (.column (.plain (.bare ⟨'a', [], rfl, by decide, by simp⟩) (by simp)) (by decide))
  have hclip : Expr.WritesClip (Expr.negated 0 (.flag (.column { name := ['a'] })))
    ([] ++ (['a'] ++ [])) :=
    .mk rfl hflag Text.blank_nil
  have hread : Condition.read ['a'] = .ok ⟨['a'], some (.flag (.column { name := ['a'] }))⟩ :=
    (Expr.WritesClips.last hclip).read
  have hrun (s : Delete) : Run s _ := .cons (.assign ['b'] (.bool true) rfl)
    (.cons (.condition (withCondition_eq hread)) (.nil _))
  refine ⟨_, _, "DELETE FROM `t` WHERE `a`".toList, hstart, hrun _, rfl, ?_⟩
  refine (filtered_iff_of_run columnNames_id (by simp) hstart (hrun _) rfl).2 ?_
  rintro c ⟨⟩
  rfl

/-- An empty condition takes its place too, and then every row goes. -/
theorem unfiltered_run : ∃ s₀ s, start {} ['t'] "id".toList = .ok s₀ ∧
    Statement.columnNames "id".toList = .ok ["id".toList] ∧ Run s₀ s ∧
    s.sql = .ok "DELETE FROM `t`".toList ∧ whereText? .mysql "DELETE FROM `t`".toList = none := by
  have hempty : Condition.read [] = .ok ⟨[], none⟩ := by
    have hscan : Condition.cutter.Scans [{}] false [] [] := .done
    rw [Condition.read, Cutter.read_eq_ok_iff.2 hscan]
    rfl
  have hstart := @start_eq {} ['t'] _ _ (by simp) columnNames_id (by simp)
  exact ⟨_, _, hstart, columnNames_id, .cons (.condition (withCondition_eq hempty)) (.nil _), rfl,
    rfl⟩

end Delete

end QueryShorthand
