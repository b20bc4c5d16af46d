import QueryShorthand.Proofs.Join.Scope
import QueryShorthand.Proofs.Sql.Literal

/-! Brackets that name the source their columns are compared with. A table without an alias is
introduced with the prefix, and the bracket leaves that out. -/
namespace QueryShorthand.Join

/-- What a bracket calls a source. A sequence in parentheses has no name of its own. -/
def Source.called? : Source → Option Text
  | table name tableAlias => some (tableAlias.getD name)
  | preset _ tableAlias _ => some tableAlias
  | group _ => none

def Source.isAliased : Source → Bool
  | table _ tableAlias => tableAlias.isSome
  | preset _ _ _ => true
  | group _ => false

mutual

/-- The sources that a table of a FROM text stands for, each with the name that introduces it. -/
def Table.introduced : Table → Source → List (Source × Text)
  | .nested first rest, .group (.mk _ source _ :: steps) =>
    first.introduced source ++ rest.introduced steps
  | table, source => [(source, table.name)]

def Joined.introduced : Joined → List Step → List (Source × Text)
  | .more _ table _ rest, .mk _ source _ :: steps =>
    table.introduced source ++ rest.introduced steps
  | _, _ => []

end

section

variable (ctx : Context)

/-- If `of` names the source, then its quoted form is the name that introduces the source, or else
the source is a table that goes by its own name and has a prefix there. -/
def Qualifies (of : Text) (entry : Source × Text) : Prop :=
  entry.1.called? = some of →
    (ctx.quoteName of = entry.2 ↔ entry.1.isAliased = true ∨ ctx.target.tablePrefix = [])

mutual

def Table.Overridden : Table → Source → Prop
  | .nested first rest, .group (.mk _ source _ :: steps) =>
    first.Overridden source ∧ rest.Overridden (first.introduced source) steps
  | _, _ => True

/-- The sources in `scope` are introduced before, in the same sequence. -/
def Joined.Overridden (scope : List (Source × Text)) : Joined → List Step → Prop
  | .more _ table matching rest, .mk _ source bracket :: steps =>
    table.Overridden source ∧
      (∀ of columns, bracket = some (.equal (some of) columns) →
        (∃ right, matching =
          .clause (Matching.columns (ctx.quoteName of) right (columns.map ctx.quoteName)).text) ∧
        ∀ entry ∈ scope, Qualifies ctx of entry) ∧
      rest.Overridden (scope ++ table.introduced source) steps
  | _, _ => True

end

end

variable {j : Join} {ctx : Context} {source : Source} {of : Text}

mutual

theorem WritesSource.names_introduced : ∀ {source : Source} {table : Table},
    WritesSource j ctx source table → (table.introduced source).map Prod.snd = table.names
  | _, _, .table _ => rfl
  | _, _, .aliased _ => rfl
  | _, _, .subquery _ => rfl
  | _, _, .preset _ _ => rfl
  | _, _, .group h hr => by
    rw [Table.introduced, List.map_append, h.names_introduced, hr.names_introduced]
    rfl

theorem WritesJoined.names_introduced : ∀ {steps : List Step} {rest : Joined},
    WritesJoined j ctx steps rest → (rest.introduced steps).map Prod.snd = rest.names
  | _, _, .nothing => rfl
  | _, _, .more h _ hr => by
    rw [Joined.introduced, List.map_append, h.names_introduced, hr.names_introduced]
    rfl

end

theorem qualifies_aliased {tableAlias : Text} (hcalled : source.called? = some tableAlias)
    (haliased : source.isAliased = true) : Qualifies ctx of (source, ctx.quoteName tableAlias) := by
  intro hof
  obtain rfl : tableAlias = of := Option.some.inj (hcalled.symm.trans hof)
  simp [haliased]

theorem qualifies_named (name : Text) : Qualifies ctx of
    (.table name none, ctx.quoteName (ctx.target.tablePrefix ++ name)) := by
  intro hof
  obtain rfl : name = of := Option.some.inj hof
  simp [Context.quoteName, Sql.quoteName_inj, Source.isAliased]

mutual

theorem WritesSource.qualifies :
    ∀ {source : Source} {table : Table}, WritesSource j ctx source table →
    ∀ entry ∈ table.introduced source, Qualifies ctx of entry
  | _, _, .table _ => List.forall_mem_singleton.2 (qualifies_named _)
  | _, _, .aliased _ => List.forall_mem_singleton.2 (qualifies_aliased rfl rfl)
  | _, _, .subquery _ => List.forall_mem_singleton.2 (qualifies_aliased rfl rfl)
  | _, _, .preset _ _ => List.forall_mem_singleton.2 (qualifies_aliased rfl rfl)
  | _, _, .group h hr => List.forall_mem_append.2 ⟨h.qualifies, hr.qualifies⟩

theorem WritesJoined.qualifies :
    ∀ {steps : List Step} {rest : Joined}, WritesJoined j ctx steps rest →
    ∀ entry ∈ rest.introduced steps, Qualifies ctx of entry
  | _, _, .nothing => fun _ h => by cases h
  | _, _, .more h _ hr => List.forall_mem_append.2 ⟨h.qualifies, hr.qualifies⟩

end

mutual

theorem WritesSource.overridden :
    ∀ {source : Source} {table : Table}, WritesSource j ctx source table →
    table.Overridden ctx source
  | _, _, .table _ => trivial
  | _, _, .aliased _ => trivial
  | _, _, .subquery _ => trivial
  | _, _, .preset _ _ => trivial
  | _, _, .group h hr => ⟨h.overridden, hr.overridden fun _ => h.qualifies⟩

theorem WritesJoined.overridden :
    ∀ {scope : List (Source × Text)} {steps : List Step} {rest : Joined},
    WritesJoined j ctx steps rest → (∀ of, ∀ entry ∈ scope, Qualifies ctx of entry) →
    rest.Overridden ctx scope steps
  | _, _, _, .nothing, _ => trivial
  | _, _, _, .more h hm hr, hscope => by
    refine ⟨h.overridden, fun of columns hb => ⟨?_, hscope of⟩,
      hr.overridden fun of => List.forall_mem_append.2 ⟨hscope of, h.qualifies⟩⟩
    subst hb
    cases hm with
    | equalOf _ right => exact ⟨right, rfl⟩

end

/-- In the FROM text of a join, a bracket that names a source qualifies the columns by the quoted
name of the bracket. That is how the text introduces a source with an alias. A table under its own
name is introduced with the prefix, so that only the bracket without a name finds it there. -/
theorem overridden_of_sql {t : Text} (h : Join.sql ctx j = .ok t) : ∃ first rest,
    WritesSource j ctx (.group j.steps) (.nested first rest) ∧ first.text ++ rest.text = t ∧
      ((Table.nested first rest).introduced (.group j.steps)).map Prod.snd =
        (Table.nested first rest).names ∧
      (Table.nested first rest).Scoped ∧
      (Table.nested first rest).Overridden ctx (.group j.steps) := by
  obtain ⟨first, rest, hw, ht, hs, -⟩ := exists_nested_of_sql h
  exact ⟨first, rest, hw, ht, hw.names_introduced, hs, hw.overridden⟩

/-- An alias is found behind a prefix too, also from inside a sequence in which it is introduced. -/
theorem overridden_of_sql_aliased : ∃ (j : Join) (first : Table) (rest : Joined),
    read ⟨{ tablePrefix := "p_".toList }, .stock⟩ "a.t-(b.u-c.w[b:n])[id]-v[a:id]".toList = .ok j ∧
      WritesSource j { target := { tablePrefix := "p_".toList } } (.group j.steps)
        (.nested first rest) ∧
      first.text ++ rest.text =
        ("`p_t` AS `a` JOIN (`p_u` AS `b` JOIN `p_w` AS `c` ON `b`.`n` = `c`.`n`)".toList
        ++ " ON `a`.`id` = `b`.`id` JOIN `p_v` ON `a`.`id` = `p_v`.`id`".toList) ∧
      (Table.nested first rest).Overridden { target := { tablePrefix := "p_".toList } }
        (.group j.steps) := by
  have hsome : ((read ⟨{ tablePrefix := "p_".toList }, .stock⟩
      "a.t-(b.u-c.w[b:n])[id]-v[a:id]".toList).toOption.bind fun j =>
        (Join.sql { target := { tablePrefix := "p_".toList } } j).toOption) =
      some ("`p_t` AS `a` JOIN (`p_u` AS `b` JOIN `p_w` AS `c` ON `b`.`n` = `c`.`n`)".toList
        ++ " ON `a`.`id` = `b`.`id` JOIN `p_v` ON `a`.`id` = `p_v`.`id`".toList) := by
    decide +kernel
  obtain ⟨j, hj, hsql⟩ := Option.bind_eq_some_iff.1 hsome
  obtain ⟨first, rest, hw, ht, -, -, ho⟩ := overridden_of_sql (eq_ok_of_toOption hsql)
  exact ⟨j, first, rest, eq_ok_of_toOption hj, hw, ht, ho⟩

/-- The bracket names the first table, which the text introduces as `p_t`, and the clause qualifies
by `t`. The bracket before it has no name and is right. -/
theorem overridden_of_sql_prefixed : ∃ j : Join,
    read ⟨{ tablePrefix := "p_".toList }, .stock⟩ "t-u[id]-v[t:id]".toList = .ok j ∧
      j.steps = [.mk none (.table ['t'] none) none,
        .mk (some .inner) (.table ['u'] none) (some (.equal none ["id".toList])),
        .mk (some .inner) (.table ['v'] none) (some (.equal (some ['t']) ["id".toList]))] ∧
      WritesSource j { target := { tablePrefix := "p_".toList } } (.table ['t'] none)
        (.named "`p_t`".toList) ∧
      Join.sql { target := { tablePrefix := "p_".toList } } j = .ok
        ("`p_t` JOIN `p_u` ON `p_t`.`id` = `p_u`.`id`".toList
        ++ " JOIN `p_v` ON `t`.`id` = `p_v`.`id`".toList) := by
  have htokens : Token.readWith checkLeaf Kind.symbols "t-u[id]-v[t:id]".toList =
      .ok [.leaf ['t'], .combinator ['-'], .leaf "u[id]".toList, .combinator ['-'],
        .leaf "v[t:id]".toList] := by
    with_unfolding_all rfl
  refine ⟨{ source := "t-u[id]-v[t:id]".toList, steps := _ }, ?_, rfl, .table rfl, ?_⟩
  · rw [read, htokens]
    with_unfolding_all rfl
  · with_unfolding_all rfl

end QueryShorthand.Join
