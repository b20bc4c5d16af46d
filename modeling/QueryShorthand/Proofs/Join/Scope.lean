import QueryShorthand.Preset.Stock
import QueryShorthand.Proofs.Agreement
import QueryShorthand.Proofs.Join.Reading

/-! The text of a FROM clause as tables with the names that they introduce, and the scope of its ON
clauses. -/
namespace QueryShorthand.Join

inductive Matching where
  | nothing
  | clause (sql : Text)
  /-- The columns are equal in the table `left` and in the table `right`. -/
  | columns (left right : Text) (names : List Text)

mutual

inductive Table where
  /-- It goes by its own name. -/
  | named (name : Text)
  | labelled (body label : Text)
  /-- A sequence in parentheses. -/
  | nested (first : Table) (rest : Joined)

inductive Joined where
  | nothing
  | more (kind : Kind) (table : Table) (matching : Matching) (rest : Joined)

end

def Matching.text : Matching → Text
  | nothing => []
  | clause sql => sql
  | columns left right names =>
    " ON ".toList ++ Text.joined " AND ".toList (names.map fun c =>
      left ++ '.' :: (c ++ " = ".toList ++ right ++ '.' :: c))

mutual

def Table.text : Table → Text
  | .named name => name
  | .labelled body label => body ++ " AS ".toList ++ label
  | .nested first rest => '(' :: (first.text ++ rest.text ++ [')'])

def Joined.text : Joined → Text
  | .nothing => []
  | .more kind table matching rest =>
    ' ' :: (kind.keyword ++ ' ' :: (table.text ++ matching.text ++ rest.text))

end

mutual

def Table.names : Table → List Text
  | .named name => [name]
  | .labelled _ label => [label]
  | .nested first rest => first.names ++ rest.names

def Joined.names : Joined → List Text
  | .nothing => []
  | .more _ table _ rest => table.names ++ rest.names

end

def Table.name : Table → Text
  | named name => name
  | labelled _ label => label
  | nested first _ => first.name

theorem Table.name_mem : ∀ table : Table, table.name ∈ table.names
  | .named _ => List.mem_singleton_self _
  | .labelled _ _ => List.mem_singleton_self _
  | .nested first _ => List.mem_append_left _ first.name_mem

mutual

def Table.Scoped : Table → Prop
  | .named _ => True
  | .labelled _ _ => True
  | .nested first rest => first.Scoped ∧ rest.Scoped first.name first.names

/-- Columns are compared between the table `first` and the table that is joined. The names in
`scope` are introduced before it, in the same sequence. -/
def Joined.Scoped (first : Text) (scope : List Text) : Joined → Prop
  | .nothing => True
  | .more _ table matching rest =>
    table.Scoped ∧
      (∀ left right names, matching = .columns left right names →
        left = first ∧ left ∈ scope ∧ right = table.name ∧ right ∈ table.names) ∧
      rest.Scoped first (scope ++ table.names)

end

section

variable (j : Join) (ctx : Context)

/-- What a bracket is written as. For columns of the first table the two names are left open. -/
inductive WritesMatching : Option Bracket → Matching → Prop where
  | nothing : WritesMatching none .nothing
  | condition {c : Condition} {sql : Text} (h : c.sql ctx = .ok (some sql)) :
      WritesMatching (some (.condition c)) (.clause (" ON ".toList ++ sql))
  | merged (columns : List Text) : WritesMatching (some (.merged columns))
      (.clause (" USING (".toList ++ Text.joined ", ".toList (columns.map ctx.quoteName) ++ [')']))
  | equalOf (of right : Text) (columns : List Text) :
      WritesMatching (some (.equal (some of) columns))
      (.clause (Matching.columns (ctx.quoteName of) right (columns.map ctx.quoteName)).text)
  | equal (left right : Text) (columns : List Text) : WritesMatching (some (.equal none columns))
      (.columns left right (columns.map ctx.quoteName))

mutual

/-- What a source is written as. A table without an alias is introduced by its quoted name with the
prefix, and every other one by its quoted alias. -/
inductive WritesSource : Source → Table → Prop where
  | table {name : Text} (h : j.subqueries.get? name = none) :
      WritesSource (.table name none) (.named (ctx.quoteName (ctx.target.tablePrefix ++ name)))
  | aliased {name tableAlias : Text} (h : j.subqueries.get? name = none) :
      WritesSource (.table name (some tableAlias))
        (.labelled (ctx.quoteName (ctx.target.tablePrefix ++ name)) (ctx.quoteName tableAlias))
  | subquery {name tableAlias sql : Text} (h : j.subqueries.get? name = some (.ok sql)) :
      WritesSource (.table name (some tableAlias))
        (.labelled ('(' :: (sql ++ [')'])) (ctx.quoteName tableAlias))
  | preset {table tableAlias name sql : Text} {p : Preset} (h : j.presets.get? tableAlias = some p)
      (hp : p.sql = .ok sql) : WritesSource (.preset table tableAlias name)
        (.labelled ('(' :: (sql ++ [')'])) (ctx.quoteName tableAlias))
  | group {kind : Option Kind} {source : Source} {bracket : Option Bracket} {steps : List Step}
      {first : Table} {rest : Joined} (h : WritesSource source first)
      (hr : WritesJoined steps rest) :
      WritesSource (.group (.mk kind source bracket :: steps)) (.nested first rest)

inductive WritesJoined : List Step → Joined → Prop where
  | nothing : WritesJoined [] .nothing
  | more {kind : Option Kind} {source : Source} {bracket : Option Bracket} {steps : List Step}
      {table : Table} {matching : Matching} {rest : Joined} (h : WritesSource source table)
      (hm : WritesMatching ctx bracket matching) (hr : WritesJoined steps rest) :
      WritesJoined (.mk kind source bracket :: steps) (.more (kind.getD .inner) table matching rest)

end

end

variable {j : Join} {ctx : Context}

theorem tableName_eq {target : Target} {name t : Text} (h : target.tableName name = .ok t) :
    t = target.dialect.quoteName (target.tablePrefix ++ name) := by
  unfold Target.tableName at h
  split at h
  · cases h
  · cases h
    rfl

theorem exists_matching_of_sql {first : Text} {source : Source} {table : Table} {bracket : Bracket}
    {t : Text} (href : source.reference ctx.target = .ok table.name)
    (h : bracketSql ctx first source bracket = .ok t) :
    ∃ matching, WritesMatching ctx (some bracket) matching ∧ matching.text = t ∧
      ∀ left right names, matching = .columns left right names → left = first ∧
      right = table.name := by
  cases bracket with
  | condition c =>
    obtain ⟨sql, hsql, h⟩ := exists_of_bind_eq_ok h
    cases sql with
    | none => cases h
    | some sql =>
      cases h
      exact ⟨_, .condition hsql, rfl, by simp⟩
  | merged columns =>
    cases h
    exact ⟨_, .merged columns, rfl, by simp⟩
  | equal of columns =>
    obtain ⟨right, hright, h⟩ := exists_of_bind_eq_ok h
    obtain rfl : table.name = right := Except.ok.inj (href.symm.trans hright)
    cases h
    cases of with
    | some of =>
      refine ⟨_, .equalOf of table.name columns, ?_, by simp⟩
      simp [Matching.text, List.map_map, Function.comp_def]
    | none =>
      refine ⟨_, .equal first table.name columns, ?_, ?_⟩
      · simp [Matching.text, List.map_map, Function.comp_def]
      · intro left right names hm
        cases hm
        exact ⟨rfl, rfl⟩

theorem exists_table_of_leafSql {name : Text} {tableAlias : Option Text} {t : Text}
    (h : (Source.table name tableAlias).sql j ctx = .ok t) :
    ∃ table, WritesSource j ctx (.table name tableAlias) table ∧ table.text = t ∧ table.Scoped ∧
      (Source.table name tableAlias).reference ctx.target = .ok table.name := by
  simp only [Source.sql] at h
  split at h
  · cases h
  · next sql a hsub =>
    obtain ⟨sql, rfl, rfl⟩ := exists_of_map_eq_ok h
    exact ⟨_, .subquery hsub, by simp [Table.text, derived], trivial, rfl⟩
  · next hsub =>
    obtain rfl := tableName_eq h
    exact ⟨_, .table hsub, rfl, trivial, h⟩
  · next a hsub =>
    obtain ⟨body, hbody, rfl⟩ := exists_of_map_eq_ok h
    obtain rfl := tableName_eq hbody
    exact ⟨_, .aliased hsub, rfl, trivial, rfl⟩

theorem exists_table_of_presetSql {table tableAlias name t : Text}
    (h : (Source.preset table tableAlias name).sql j ctx = .ok t) :
    ∃ T, WritesSource j ctx (.preset table tableAlias name) T ∧ T.text = t ∧ T.Scoped ∧
      (Source.preset table tableAlias name).reference ctx.target = .ok T.name := by
  simp only [Source.sql] at h
  split at h
  · next p hp =>
    obtain ⟨sql, hsql, rfl⟩ := exists_of_map_eq_ok h
    exact ⟨_, .preset hp hsql, by simp [Table.text, derived], trivial, rfl⟩
  · cases h

mutual

theorem exists_table_of_sql : ∀ {source : Source} {t : Text}, source.sql j ctx = .ok t →
    ∃ table, WritesSource j ctx source table ∧ table.text = t ∧ table.Scoped ∧
      source.reference ctx.target = .ok table.name
  | .table _ _, _, h => exists_table_of_leafSql h
  | .preset _ _ _, _, h => exists_table_of_presetSql h
  | .group steps, t, h => by
    simp only [Source.sql] at h
    obtain ⟨sql, hsteps, rfl⟩ := exists_of_map_eq_ok h
    obtain ⟨first, rest, hw, rfl, hs, href⟩ := exists_nested_of_sql hsteps
    exact ⟨.nested first rest, hw, by simp [Table.text], hs, href⟩

theorem exists_nested_of_sql : ∀ {steps : List Step} {t : Text}, stepsSql j ctx steps = .ok t →
    ∃ first rest, WritesSource j ctx (.group steps) (.nested first rest) ∧
    first.text ++ rest.text = t ∧
      (Table.nested first rest).Scoped ∧ referenceOfFirst ctx.target steps = .ok first.name
  | [], _, h => by cases h
  | .mk kind source bracket :: steps, t, h => by
    simp only [stepsSql] at h
    obtain ⟨first, hfirst, h⟩ := exists_of_bind_eq_ok h
    obtain ⟨u, hu, h⟩ := exists_of_bind_eq_ok h
    obtain ⟨v, hv, h⟩ := exists_of_bind_eq_ok h
    cases h
    obtain ⟨table, hw, rfl, hs, href⟩ := exists_table_of_sql hu
    obtain rfl : first = table.name := Except.ok.inj (hfirst.symm.trans href)
    obtain ⟨rest, hwr, rfl, hsr⟩ := exists_joined_of_sql table.name_mem hv
    exact ⟨table, rest, .group hw hwr, rfl, ⟨hs, hsr⟩, href⟩

theorem exists_joined_of_sql {first : Text} : ∀ {steps : List Step} {scope : List Text} {t : Text},
    first ∈ scope → restSql j ctx first steps = .ok t →
    ∃ rest, WritesJoined j ctx steps rest ∧ rest.text = t ∧ rest.Scoped first scope
  | [], _, _, _, h => by
    cases h
    exact ⟨_, .nothing, rfl, trivial⟩
  | .mk kind source bracket :: steps, scope, t, hscope, h => by
    simp only [restSql] at h
    obtain ⟨u, hu, h⟩ := exists_of_bind_eq_ok h
    obtain ⟨table, hw, rfl, hs, href⟩ := exists_table_of_sql hu
    obtain ⟨matching, w, v, hm, rfl, hcolumns, hv, rfl⟩ : ∃ matching w v,
        WritesMatching ctx bracket matching ∧ matching.text = w ∧
          (∀ left right names, matching = .columns left right names →
            left = first ∧ right = table.name) ∧
          restSql j ctx first steps = .ok v ∧
          ' ' :: ((kind.getD .inner).keyword ++ ' ' :: (table.text ++ w ++ v)) = t := by
      cases bracket with
      | none =>
        obtain ⟨w, hnothing, h⟩ := exists_of_bind_eq_ok h
        obtain ⟨v, hv, h⟩ := exists_of_bind_eq_ok h
        cases hnothing
        cases h
        exact ⟨_, [], v, .nothing, rfl, by simp, hv, rfl⟩
      | some b =>
        obtain ⟨w, hb, h⟩ := exists_of_bind_eq_ok h
        obtain ⟨v, hv, h⟩ := exists_of_bind_eq_ok h
        cases h
        obtain ⟨matching, hm, ht, hcolumns⟩ := exists_matching_of_sql href hb
        exact ⟨matching, w, v, hm, ht, hcolumns, hv, rfl⟩
    have hscope' : first ∈ scope ++ table.names := List.mem_append_left _ hscope
    obtain ⟨rest, hwr, rfl, hsr⟩ := exists_joined_of_sql hscope' hv
    refine ⟨.more _ table matching rest, .more hw hm hwr, rfl, hs, ?_, hsr⟩
    intro left right names hmatching
    obtain ⟨rfl, rfl⟩ := hcolumns left right names hmatching
    exact ⟨rfl, hscope, rfl, table.name_mem⟩

end

/-- The FROM text of a join that becomes SQL is a sequence of tables in which every sequence is
scoped. -/
theorem scoped_of_sql {t : Text} (h : Join.sql ctx j = .ok t) : ∃ first rest,
    WritesSource j ctx (.group j.steps) (.nested first rest) ∧ first.text ++ rest.text = t ∧
      (Table.nested first rest).Scoped := by
  obtain ⟨first, rest, hw, ht, hs, -⟩ := exists_nested_of_sql h
  exact ⟨first, rest, hw, ht, hs⟩

theorem scoped_of_sql_nested : ∃ (j : Join) (first : Table) (rest : Joined),
    read ⟨{ tablePrefix := "p_".toList }, .stock⟩
        "((a*b)<x.s[id])>(d.e-f->Latest(g,h)[n])[k]".toList = .ok j ∧
      WritesSource (j.withSubquery "s".toList (.ok "SELECT 1".toList))
        { target := { tablePrefix := "p_".toList } } (.group j.steps) (.nested first rest) ∧
      first.text ++ rest.text =
        ("((`p_a` CROSS JOIN `p_b`) LEFT JOIN (SELECT 1) AS `x` ON `p_a`.`id` = `x`.`id`)".toList
        ++ " RIGHT JOIN (`p_e` AS `d` JOIN (SELECT `l`.* FROM `p_f` AS `l` LEFT JOIN".toList
        ++ " `p_f` AS `r` ON `l`.`g` = `r`.`g` AND `l`.`h` < `r`.`h` WHERE `r`.`h` IS NULL)".toList
        ++ " AS `f` ON `d`.`n` = `f`.`n`) ON `p_a`.`k` = `d`.`k`".toList) ∧
      (Table.nested first rest).Scoped := by
  have hsome : ((read ⟨{ tablePrefix := "p_".toList }, .stock⟩
      "((a*b)<x.s[id])>(d.e-f->Latest(g,h)[n])[k]".toList).toOption.bind fun j =>
        (Join.sql { target := { tablePrefix := "p_".toList } }
          (j.withSubquery "s".toList (.ok "SELECT 1".toList))).toOption) =
      some ("((`p_a` CROSS JOIN `p_b`) LEFT JOIN (SELECT 1) AS `x` ON `p_a`.`id` = `x`.`id`)".toList
        ++ " RIGHT JOIN (`p_e` AS `d` JOIN (SELECT `l`.* FROM `p_f` AS `l` LEFT JOIN".toList
        ++ " `p_f` AS `r` ON `l`.`g` = `r`.`g` AND `l`.`h` < `r`.`h` WHERE `r`.`h` IS NULL)".toList
        ++ " AS `f` ON `d`.`n` = `f`.`n`) ON `p_a`.`k` = `d`.`k`".toList) := by
    decide +kernel
  obtain ⟨j, hj, hsql⟩ := Option.bind_eq_some_iff.1 hsome
  have hread := eq_ok_of_toOption hj
  obtain ⟨first, rest, hw, ht, hs⟩ := scoped_of_sql (eq_ok_of_toOption hsql)
  exact ⟨j, first, rest, hread, hw, ht, hs⟩

end QueryShorthand.Join
