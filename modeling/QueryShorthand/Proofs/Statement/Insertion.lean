import QueryShorthand.Proofs.Statement.Builder
import QueryShorthand.Proofs.Statement.Names

/-! What an INSERT inserts, and overwrites in a row that exists already. -/
namespace QueryShorthand.Insert

open Statement (IsColumn WritesNames)

/-- What a caller asks for, with the names of each list. -/
inductive Clause where
  | replace
  | onDuplicate (names : List Text)
  | conflictTarget (names : List Text)
  deriving DecidableEq

namespace Clause

inductive Writes : Clause → Step → Prop where
  | replace : Writes .replace .replace
  | onDuplicate {names : List Text} {t : Text} (h : WritesNames names t)
      (hn : ∀ n ∈ names, IsColumn n) :
      Writes (.onDuplicate names) (.onDuplicate t)
  | conflictTarget {names : List Text} {t : Text} (h : WritesNames names t)
      (hn : ∀ n ∈ names, IsColumn n) :
      Writes (.conflictTarget names) (.conflictTarget t)

def overwritten? : Clause → Option (List Text)
  | onDuplicate names => some names
  | _ => none

def unique? : Clause → Option (List Text)
  | conflictTarget names => some names
  | _ => none

end Clause

def overwritten (clauses : List Clause) : List Text :=
  (clauses.filterMap Clause.overwritten?).getLastD []

def unique (clauses : List Clause) : List Text := (clauses.filterMap Clause.unique?).getLastD []

variable {ctx : Context} {target : Target} {d : Dialect} {s s' : Insert} {table name t sql : Text}
  {names : List Text} {clauses : List Clause} {steps : List Step}

theorem start_eq (htable : table ≠ []) (hnames : Statement.columnNames t = .ok names)
    (hne : names ≠ []) :
    start target table t = .ok { context := { target }, table, columns := names } := by
  have hempty : names.isEmpty = false := by simpa using hne
  simp only [start, Target.tableName, if_neg htable, hnames, hempty, bind, Except.bind]
  rfl

/-- `s'` is `s` with what the clauses ask for. -/
structure Extends (clauses : List Clause) (s s' : Insert) : Prop where
  context : s'.context = s.context
  table : s'.table = s.table
  columns : s'.columns = s.columns
  replace : s'.replace = true ↔ s.replace = true ∨ .replace ∈ clauses
  onDuplicate : s'.onDuplicate = (clauses.filterMap Clause.overwritten?).getLastD s.onDuplicate
  conflictTarget : s'.conflictTarget = (clauses.filterMap Clause.unique?).getLastD s.conflictTarget

theorem extends_of_apply {c : Clause} {step : Step} (h : c.Writes step) (s : Insert) :
    ∃ s', s.apply step = .ok s' ∧ Extends [c] s s' := by
  cases h with
  | replace => exact ⟨_, rfl, ⟨rfl, rfl, rfl, by simp [withReplace], rfl, rfl⟩⟩
  | @onDuplicate names t h hn =>
    have happly : s.apply (.onDuplicate t) = .ok { s with onDuplicate := names } := by
      rw [apply, withOnDuplicate, Statement.columnNames_of_writes h hn]
      rfl
    exact ⟨_, happly, ⟨rfl, rfl, rfl, by simp, rfl, rfl⟩⟩
  | @conflictTarget names t h hn =>
    have happly : s.apply (.conflictTarget t) = .ok { s with conflictTarget := names } := by
      rw [apply, withConflictTarget, Statement.columnNames_of_writes h hn]
      rfl
    exact ⟨_, happly, ⟨rfl, rfl, rfl, by simp, rfl, rfl⟩⟩

theorem getLastD_append {α : Type} (a : α) (l m : List α) :
    (l ++ m).getLastD a = m.getLastD (l.getLastD a) := by
  induction l generalizing a with
  | nil => rfl
  | cons b l ih => simp only [List.cons_append, List.getLastD_cons, ih]

theorem Extends.trans {s'' : Insert} {c : Clause} (h : Extends [c] s s')
    (hs : Extends clauses s' s'') :
    Extends (c :: clauses) s s'' := by
  constructor
  · rw [hs.context, h.context]
  · rw [hs.table, h.table]
  · rw [hs.columns, h.columns]
  · rw [hs.replace, h.replace, List.mem_singleton, List.mem_cons, or_assoc]
  · rw [hs.onDuplicate, h.onDuplicate, ← getLastD_append, ← List.filterMap_append,
      List.singleton_append]
  · rw [hs.conflictTarget, h.conflictTarget, ← getLastD_append, ← List.filterMap_append,
      List.singleton_append]

theorem extends_of_run (h : List.Forall₂ Clause.Writes clauses steps) (s : Insert) :
    ∃ s', steps.foldlM apply s = .ok s' ∧ Extends clauses s s' := by
  induction h generalizing s with
  | nil => exact ⟨s, rfl, ⟨rfl, rfl, rfl, by simp, rfl, rfl⟩⟩
  | @cons c step clauses steps h _ ih =>
    obtain ⟨s', hstep, hextends⟩ := extends_of_apply h s
    obtain ⟨s'', hrun, hrest⟩ := ih s'
    refine ⟨s'', ?_, hextends.trans hrest⟩
    rw [List.foldlM_cons, hstep]
    exact hrun

/-- What a column contributes to the values. -/
inductive Inserted (ctx : Context) (name : Text) : Text → Prop where
  | bound {v : Value} {t : Text} (h : ctx.params.get? name = some v)
      (ht : v.sql ctx.dialect = .ok t) :
      Inserted ctx name t
  | unbound (h : ctx.params.get? name = none) : Inserted ctx name "NULL".toList

/-- How a row that exists already is overwritten. -/
inductive Upserts (d : Dialect) (unique overwritten : List Text) : Text → Prop where
  | values (hd : d = .mysql) :
      Upserts d unique overwritten ("ON DUPLICATE KEY UPDATE ".toList ++
        Text.joined ", ".toList (overwritten.map fun n =>
          d.quoteName n ++ " = VALUES(".toList ++ d.quoteName n ++ [')']))
  | excluded (hd : d ≠ .mysql) (hu : unique ≠ []) :
      Upserts d unique overwritten ("ON CONFLICT (".toList ++
        Text.joined ", ".toList (unique.map d.quoteName) ++ ") DO UPDATE SET ".toList ++
        Text.joined ", ".toList (overwritten.map fun n =>
          d.quoteName n ++ " = excluded.".toList ++ d.quoteName n))

inductive Ends (d : Dialect) (unique overwritten : List Text) : Text → Prop where
  | plain (h : overwritten = []) : Ends d unique overwritten []
  | upsert {t : Text} (h : overwritten ≠ []) (ht : Upserts d unique overwritten t) :
      Ends d unique overwritten (' ' :: t)

def rowSql (d : Dialect) (replace : Bool) (quotedTable : Text) (names values : List Text) : Text :=
  (if replace then "REPLACE".toList else "INSERT".toList) ++ " INTO ".toList ++ quotedTable ++
    " (".toList ++
    Text.joined ", ".toList (names.map d.quoteName) ++ ") VALUES (".toList ++
    Text.joined ", ".toList values ++ [')']

theorem boundSql_eq_ok_iff : boundSql ctx name = .ok t ↔ Inserted ctx name t := by
  unfold boundSql
  constructor
  · intro h
    cases hbound : ctx.params.get? name with
    | none =>
      rw [hbound] at h
      cases h
      exact .unbound hbound
    | some v =>
      rw [hbound] at h
      exact .bound hbound h
  · intro h
    cases h with
    | bound h ht =>
      rw [h]
      exact ht
    | unbound h =>
      rw [h]
      rfl

theorem upsert_eq_ok_iff {unique overwritten : List Text} :
    d.upsert unique overwritten = .ok t ↔ Upserts d unique overwritten t := by
  have elsewhere (hd : d ≠ .mysql) : d.upsert unique overwritten =
      if unique = [] then .error (.emptyName .conflictTarget)
      else .ok ("ON CONFLICT (".toList ++ Text.joined ", ".toList (unique.map d.quoteName) ++
        ") DO UPDATE SET ".toList ++ Text.joined ", ".toList (overwritten.map fun n =>
          d.quoteName n ++ " = excluded.".toList ++ d.quoteName n)) := by
    cases d with
    | mysql => exact absurd rfl hd
    | postgres => rfl
    | sqlite => rfl
  constructor
  · intro h
    by_cases hd : d = .mysql
    · subst hd
      cases h
      exact .values rfl
    · rw [elsewhere hd] at h
      split at h
      · cases h
      · next hu =>
        cases h
        exact .excluded hd hu
  · intro h
    cases h with
    | values hd =>
      subst hd
      rfl
    | excluded hd hu => rw [elsewhere hd, if_neg hu]

theorem ended_eq_ok_iff {unique overwritten : List Text} {row : Text} :
    (if overwritten.isEmpty then .ok row
      else (d.upsert unique overwritten).map fun u => row ++ ' ' :: u) = .ok t ↔
    ∃ tail, Ends d unique overwritten tail ∧ t = row ++ tail := by
  by_cases h : overwritten = []
  · subst h
    constructor
    · intro ht
      cases ht
      exact ⟨[], .plain rfl, (List.append_nil _).symm⟩
    · rintro ⟨tail, hends, rfl⟩
      cases hends with
      | plain => rw [List.append_nil]; rfl
      | upsert hne => exact absurd rfl hne
  · have hne : ¬ overwritten.isEmpty = true := by simpa using h
    rw [if_neg hne]
    constructor
    · intro ht
      obtain ⟨u, hu, rfl⟩ := exists_of_map_eq_ok ht
      exact ⟨_, .upsert h (upsert_eq_ok_iff.1 hu), rfl⟩
    · rintro ⟨tail, hends, rfl⟩
      cases hends with
      | plain hempty => exact absurd hempty h
      | upsert _ hu =>
        rw [upsert_eq_ok_iff.2 hu]
        rfl

theorem sql_eq (htable : s.table ≠ []) : s.sql =
    if s.replace && !s.context.dialect.hasReplace then
      .error (.unsupported "REPLACE".toList s.context.dialect)
    else (do
      let values ← s.columns.mapM (boundSql s.context)
      let row := rowSql s.context.dialect s.replace
        (s.context.dialect.quoteName (s.context.target.tablePrefix ++ s.table)) s.columns values
      if s.onDuplicate.isEmpty then .ok row
      else (s.context.dialect.upsert s.conflictTarget s.onDuplicate).map fun u =>
        row ++ ' ' :: u) := by
  have htarget : s.context.target.tableName s.table =
      .ok (s.context.dialect.quoteName (s.context.target.tablePrefix ++ s.table)) := if_neg htable
  rw [sql, htarget]
  rfl

theorem sql_eq_ok_iff (htable : s.table ≠ []) : s.sql = .ok sql ↔
    (s.replace = true → s.context.dialect.hasReplace = true) ∧
    ∃ values tail, List.Forall₂ (Inserted s.context) s.columns values ∧
      Ends s.context.dialect s.conflictTarget s.onDuplicate tail ∧
      sql = rowSql s.context.dialect s.replace
        (s.context.dialect.quoteName (s.context.target.tablePrefix ++ s.table)) s.columns values ++
          tail := by
  have hvalues (values : List Text) : s.columns.mapM (boundSql s.context) = .ok values ↔
      List.Forall₂ (Inserted s.context) s.columns values := by
    rw [mapM_eq_ok_iff]
    simp only [boundSql_eq_ok_iff]
  rw [sql_eq htable]
  constructor
  · intro h
    split at h
    · cases h
    · next hreplace =>
      obtain ⟨values, hv, h⟩ := exists_of_bind_eq_ok h
      obtain ⟨tail, hends, rfl⟩ := ended_eq_ok_iff.1 h
      exact ⟨by simpa using hreplace, values, tail, (hvalues values).1 hv, hends, rfl⟩
  · rintro ⟨hreplace, values, tail, hv, hends, rfl⟩
    have hsupported : ¬ (s.replace && !s.context.dialect.hasReplace) = true := by
      simpa using hreplace
    rw [if_neg hsupported, (hvalues values).2 hv]
    exact ended_eq_ok_iff.2 ⟨tail, hends, rfl⟩

/-- Each column gets the value bound under its own name, and a row that exists already is
overwritten in the columns given for it. -/
theorem sql_of_names (htable : table ≠ []) (hn : ∀ n ∈ names, IsColumn n) (h : WritesNames names t)
    (hs : List.Forall₂ Clause.Writes clauses steps) :
    ∃ s s', start target table t = .ok s ∧ steps.foldlM apply s = .ok s' ∧ ∀ params sql,
      ((Statement.insert s').withParams params).sql = .ok sql ↔
        (.replace ∈ clauses → target.dialect.hasReplace = true) ∧
        ∃ values tail, List.Forall₂ (Inserted ⟨target, params⟩) names values ∧
          Ends target.dialect (unique clauses) (overwritten clauses) tail ∧
          sql = rowSql target.dialect (decide (.replace ∈ clauses))
            (target.dialect.quoteName (target.tablePrefix ++ table)) names values ++ tail := by
  have hstart : start target table t = .ok { context := { target }, table, columns := names } :=
    start_eq htable (Statement.columnNames_of_writes h hn) h.ne_nil
  obtain ⟨s', hrun, hextends⟩ :=
    extends_of_run hs { context := { target }, table, columns := names }
  refine ⟨_, s', hstart, hrun, fun params sql => ?_⟩
  have hnamed : ({ s' with context := ⟨target, params⟩ } : Insert).table ≠ [] := by
    rw [hextends.table]
    exact htable
  have hreplace : s'.replace = decide (Clause.replace ∈ clauses) := by
    rw [Bool.eq_iff_iff, hextends.replace]
    simp
  have hsql : ((Statement.insert s').withParams params).sql =
      { s' with context := ⟨target, params⟩ : Insert }.sql := by
    rw [Statement.withParams, Statement.withContext, Statement.context, hextends.context]
    rfl
  rw [hsql, sql_eq_ok_iff hnamed]
  simp only [hreplace, hextends.table, hextends.columns, hextends.onDuplicate,
    hextends.conflictTarget, Context.dialect, decide_eq_true_eq, unique, overwritten]

theorem sql_of_names_overwritten : ∃ s s', start ⟨.sqlite, []⟩ ['t'] "`a,.\\`` , c".toList = .ok s ∧
    [Step.onDuplicate "`a,.\\``".toList, .conflictTarget ['c']].foldlM apply s = .ok s' ∧
    ((Statement.insert s').withParams (Bindings.empty.insert ['c'] (.text ['x']))).sql =
      .ok ("INSERT INTO \"t\" (\"a,.`\", \"c\") VALUES (NULL, 'x') ".toList ++
        "ON CONFLICT (\"c\") DO UPDATE SET \"a,.`\" = excluded.\"a,.`\"".toList) := by
  have space : Text.Blank [' '] := Text.forall_mem_of_all (by decide)
  have odd : Name.Writes "a,.`".toList (Text.quoted backtick "a,.`".toList) := .quoted (by decide)
  have word : Name.Writes ['c'] ['c'] := .bare ⟨'c', [], rfl, by decide, by simp⟩
  have alone : WritesNames [['c']] ([] ++ (['c'] ++ [])) := .last Text.blank_nil word Text.blank_nil
  have behind : WritesNames [['c']] ([' '] ++ (['c'] ++ [])) := .last space word Text.blank_nil
  have both : WritesNames ["a,.`".toList, ['c']]
      ([] ++ (Text.quoted backtick "a,.`".toList ++ [' ']) ++ ',' :: ([' '] ++ (['c'] ++ []))) :=
    .more Text.blank_nil odd space behind
  have overwrite : WritesNames ["a,.`".toList] ([] ++ (Text.quoted backtick "a,.`".toList ++ [])) :=
    .last Text.blank_nil odd Text.blank_nil
  have clauses : List.Forall₂ Clause.Writes [.onDuplicate ["a,.`".toList], .conflictTarget [['c']]]
      [.onDuplicate _, .conflictTarget _] :=
    .cons (.onDuplicate overwrite (by simp [IsColumn]))
      (.cons (.conflictTarget alone (by simp [IsColumn])) .nil)
  obtain ⟨s, s', hs, hrun, hsql⟩ :=
    @sql_of_names ⟨.sqlite, []⟩ ['t'] _ _ _ _ (by simp) (by simp [IsColumn]) both clauses
  have hget (name : Text) : (Bindings.empty.insert ['c'] (Value.text ['x'])).get? name =
      if name = ['c'] then some (.text ['x']) else none := by
    rw [Bindings.get?_insert, Bindings.get?_empty]
  have unbound : Inserted ⟨⟨.sqlite, []⟩, Bindings.empty.insert ['c'] (.text ['x'])⟩ "a,.`".toList
      "NULL".toList :=
    .unbound (by simp [hget])
  have bound :
      Inserted ⟨⟨.sqlite, []⟩, Bindings.empty.insert ['c'] (.text ['x'])⟩ ['c'] "'x'".toList :=
    .bound (hget _) rfl
  exact ⟨s, s', hs, hrun, (hsql _ _).2 ⟨by simp, _, _, .cons unbound (.cons bound .nil),
    .upsert (List.cons_ne_nil _ _) (.excluded (by simp) (List.cons_ne_nil _ _)), rfl⟩⟩

/-- Without a table there is nothing to insert into. -/
theorem not_start_of_unnamed : ∃ names t, WritesNames names t ∧ (∀ n ∈ names, IsColumn n) ∧
    ∀ s, start {} [] t ≠ .ok s := by
  have name : WritesNames [['a']] ([] ++ (Text.quoted backtick ['a'] ++ [])) :=
    .last Text.blank_nil (.quoted (by simp)) Text.blank_nil
  refine ⟨_, _, name, by simp [IsColumn], fun s hs => ?_⟩
  cases hs

end QueryShorthand.Insert
