import QueryShorthand.Preset.Stock
import QueryShorthand.Proofs.Agreement
import QueryShorthand.Proofs.Join.Placement

/-! A join that was read fails only with the failure of a part that it uses, or for a sub-query
without an alias. -/
namespace QueryShorthand.Join

/-- What the step uses fails with the error: a registered sub-query, which needs an alias, the
instance of a preset, or a condition. -/
inductive Step.Fails (j : Join) (ctx : Context) : Step → Error → Prop where
  | unlabelled {kind : Option Kind} {bracket : Option Bracket} {name : Text} {sql : Compiled}
      (h : j.subqueries.get? name = some sql) :
      Fails j ctx (.mk kind (.table name none) bracket) (.subqueryAlias name)
  | subquery {kind : Option Kind} {bracket : Option Bracket} {name tableAlias : Text} {e : Error}
      (h : j.subqueries.get? name = some (.error e)) :
      Fails j ctx (.mk kind (.table name (some tableAlias)) bracket) e
  | preset {kind : Option Kind} {bracket : Option Bracket} {table tableAlias name : Text}
      {p : Preset}
      {e : Error} (h : j.presets.get? tableAlias = some p) (hp : p.sql = .error e) :
      Fails j ctx (.mk kind (.preset table tableAlias name) bracket) e
  | condition {kind : Option Kind} {source : Source} {c : Condition} {e : Error}
      (h : c.sql ctx = .error e) : Fails j ctx (.mk kind source (some (.condition c))) e

/-- Some step of the sequence fails, or one in its parentheses, at any depth. -/
def FailsIn (j : Join) (ctx : Context) (steps : List Step) (e : Error) : Prop :=
  ∃ level, Sequence steps level ∧ ∃ s ∈ level, s.Fails j ctx e

variable {j : Join} {ctx : Context} {e : Error}

theorem Step.Fails.failsIn {s : Step} (h : s.Fails j ctx e) : FailsIn j ctx [s] e :=
  ⟨[s], .whole _, s, List.mem_singleton_self s, h⟩

theorem FailsIn.of_mem {s : Step} {steps : List Step} (hm : s ∈ steps) (h : FailsIn j ctx [s] e) :
    FailsIn j ctx steps e := by
  obtain ⟨level, hl, t, ht, h⟩ := h
  cases hl with
  | whole =>
    obtain rfl := List.mem_singleton.1 ht
    exact ⟨steps, .whole _, _, hm, h⟩
  | inside hg hl =>
    obtain rfl := List.mem_singleton.1 hg
    exact ⟨level, .inside hm hl, t, ht, h⟩

theorem FailsIn.of_group {kind : Option Kind} {bracket : Option Bracket} {inner : List Step}
    (h : FailsIn j ctx inner e) : FailsIn j ctx [.mk kind (.group inner) bracket] e := by
  obtain ⟨level, hl, h⟩ := h
  exact ⟨level, .inside (List.mem_singleton_self _) hl, h⟩

theorem FailsIn.of_tail {s : Step} {rest : List Step} (h : FailsIn j ctx rest e) :
    FailsIn j ctx (s :: rest) e := by
  obtain ⟨level, hl, t, ht, h⟩ := h
  cases hl with
  | whole => exact ⟨_, .whole _, t, List.mem_cons_of_mem _ ht, h⟩
  | inside hm hl => exact ⟨level, .inside (List.mem_cons_of_mem _ hm) hl, t, ht, h⟩

/-- What keeps a step of a well placed sequence from failing on its own. -/
structure Sound (presets : Bindings Preset) (s : Step) : Prop where
  settled : s.source.Settled presets
  condition : ∀ c, s.bracket = some (.condition c) → c.isEmpty = false

theorem sound_of_wellPlaced {presets : Bindings Preset} {steps : List Step}
    (h : ∀ level, Sequence steps level → WellPlaced presets level) :
    ∀ s ∈ steps, Sound presets s := by
  intro s hm
  have whole := h steps (.whole _)
  obtain ⟨kind, source, bracket⟩ := s
  constructor
  · cases source with
    | table name tableAlias => exact whole.named _ hm name tableAlias rfl
    | preset table tableAlias preset => exact whole.served _ hm table tableAlias preset rfl
    | group inner => exact fun level hl => h level (.inside hm hl)
  · exact whole.condition _ hm

theorem tableName_ok {name : Text} (h : name ≠ []) (target : Target) :
    target.tableName name = .ok (target.dialect.quoteName (target.tablePrefix ++ name)) := by
  rw [Target.tableName, if_neg h]

theorem reference_ok {presets : Bindings Preset} (target : Target) : ∀ {source : Source},
    source.Settled presets → ∃ t, source.reference target = .ok t
  | .table name none, h => ⟨_, tableName_ok h target⟩
  | .table _ (some a), _ => ⟨_, rfl⟩
  | .preset _ a _, _ => ⟨_, rfl⟩
  | .group [], h => absurd rfl (h [] (.whole _)).ne_nil
  | .group (.mk kind source bracket :: rest), h => by
    have hsource : source.Settled presets := (sound_of_wellPlaced h _ List.mem_cons_self).settled
    obtain ⟨t, ht⟩ := reference_ok target hsource
    exact ⟨t, ht⟩

theorem fails_of_bracketSql {kind : Option Kind} {source : Source} {b : Bracket} {first : Text}
    (hs : Sound j.presets (.mk kind source (some b)))
    (h : bracketSql ctx first source b = .error e) :
    (Step.mk kind source (some b)).Fails j ctx e := by
  cases b with
  | condition c =>
    rcases error_or_exists_of_bind_eq_error h with h | ⟨sql, hsql, h⟩
    · exact .condition h
    · have hne := hs.condition c rfl
      obtain ⟨text, expr⟩ := c
      cases expr with
      | none => cases hne
      | some x =>
        obtain ⟨t, -, rfl⟩ := exists_of_map_eq_ok hsql
        cases h
  | merged columns => cases h
  | equal of columns =>
    obtain ⟨t, ht⟩ : ∃ t, source.reference ctx.target = .ok t := reference_ok ctx.target hs.settled
    rcases error_or_exists_of_bind_eq_error h with h | ⟨_, -, h⟩
    · rw [ht] at h
      cases h
    · cases h

theorem fails_of_leafSql {kind : Option Kind} {bracket : Option Bracket} {name : Text}
    {tableAlias : Option Text} (hne : name ≠ [])
    (h : (Source.table name tableAlias).sql j ctx = .error e) :
    (Step.mk kind (.table name tableAlias) bracket).Fails j ctx e := by
  simp only [Source.sql] at h
  split at h
  · next sql hsub =>
    cases h
    exact .unlabelled hsub
  · next sql a hsub =>
    obtain rfl := eq_error_of_map_eq_error h
    exact .subquery hsub
  · rw [tableName_ok hne] at h
    cases h
  · rw [tableName_ok hne] at h
    cases h

theorem fails_of_presetSql {kind : Option Kind} {bracket : Option Bracket}
    {table tableAlias name : Text} {p : Preset} (hp : j.presets.get? tableAlias = some p)
    (h : (Source.preset table tableAlias name).sql j ctx = .error e) :
    (Step.mk kind (.preset table tableAlias name) bracket).Fails j ctx e := by
  simp only [Source.sql, hp] at h
  exact .preset hp (eq_error_of_map_eq_error h)

mutual

theorem failsIn_of_sourceSql {kind : Option Kind} {bracket : Option Bracket} : ∀ {source : Source},
    source.Settled j.presets → source.sql j ctx = .error e →
    FailsIn j ctx [.mk kind source bracket] e
  | .table name tableAlias, hs, h => (fails_of_leafSql hs h).failsIn
  | .preset table tableAlias name, hs, h => by
    obtain ⟨p, hp, -⟩ := hs
    exact (fails_of_presetSql hp h).failsIn
  | .group steps, hs, h => by
    simp only [Source.sql] at h
    have hne := (hs steps (.whole _)).ne_nil
    exact (failsIn_of_stepsSql hne (sound_of_wellPlaced hs) (eq_error_of_map_eq_error h)).of_group

theorem failsIn_of_stepsSql : ∀ {steps : List Step}, steps ≠ [] → (∀ s ∈ steps, Sound j.presets s) →
    stepsSql j ctx steps = .error e → FailsIn j ctx steps e
  | [], hne, _, _ => absurd rfl hne
  | .mk kind source bracket :: rest, _, hs, h => by
    obtain ⟨hfirst, hrest⟩ := List.forall_mem_cons.1 hs
    have hsettled : source.Settled j.presets := hfirst.settled
    obtain ⟨first, ht⟩ := reference_ok ctx.target hsettled
    simp only [stepsSql] at h
    rcases error_or_exists_of_bind_eq_error h with h | ⟨_, -, h⟩
    · rw [h] at ht
      cases ht
    · rcases error_or_exists_of_bind_eq_error h with h | ⟨sql, -, h⟩
      · exact (failsIn_of_sourceSql hsettled h).of_mem List.mem_cons_self
      · rcases error_or_exists_of_bind_eq_error h with h | ⟨more, -, h⟩
        · exact (failsIn_of_restSql hrest h).of_tail
        · cases h

theorem failsIn_of_restSql {first : Text} : ∀ {rest : List Step}, (∀ s ∈ rest, Sound j.presets s) →
    restSql j ctx first rest = .error e → FailsIn j ctx rest e
  | [], _, h => by cases h
  | .mk kind source bracket :: rest, hs, h => by
    obtain ⟨hfirst, hrest⟩ := List.forall_mem_cons.1 hs
    have hsettled : source.Settled j.presets := hfirst.settled
    simp only [restSql] at h
    rcases error_or_exists_of_bind_eq_error h with h | ⟨sql, -, h⟩
    · exact (failsIn_of_sourceSql hsettled h).of_mem List.mem_cons_self
    · have behind {matching : Text} (h : (do
          let more ← restSql j ctx first rest
          return ' ' :: ((kind.getD .inner).keyword ++ ' ' :: (sql ++ matching ++ more))) =
            .error e) :
          FailsIn j ctx (.mk kind source bracket :: rest) e := by
        rcases error_or_exists_of_bind_eq_error h with h | ⟨more, -, h⟩
        · exact (failsIn_of_restSql hrest h).of_tail
        · cases h
      cases bracket with
      | none => exact behind h
      | some b =>
        rcases error_or_exists_of_bind_eq_error h with h | ⟨matching, -, h⟩
        · exact (fails_of_bracketSql hfirst h).failsIn.of_mem List.mem_cons_self
        · exact behind h

end

/-- Every sequence of a join that was read is well placed. Whatever sub-queries are registered, it
becomes SQL unless some step uses what fails, and then it fails like that. -/
theorem wellPlaced_and_compiles {setting : Setting} {source : Text} {j : Join}
    (h : read setting source = .ok j) :
    (∀ level, Sequence j.steps level → WellPlaced j.presets level) ∧
      ∀ (subqueries : Bindings Compiled) (ctx : Context),
        ((∀ level, Sequence j.steps level → ∀ s ∈ level, ∀ e,
            ¬ s.Fails { j with subqueries } ctx e) →
          ∃ t, Join.sql ctx { j with subqueries } = .ok t) ∧
        ∀ e, Join.sql ctx { j with subqueries } = .error e →
          ∃ level, Sequence j.steps level ∧ ∃ s ∈ level, s.Fails { j with subqueries } ctx e := by
  have hplaced : ∀ level, Sequence j.steps level → WellPlaced j.presets level :=
    fun level hl => wellPlaced_of_read h hl
  have hfails : ∀ (subqueries : Bindings Compiled) (ctx : Context) (e : Error),
      Join.sql ctx { j with subqueries } = .error e → FailsIn { j with subqueries } ctx j.steps e :=
    fun _ _ _ he => failsIn_of_stepsSql (hplaced _ (.whole _)).ne_nil (sound_of_wellPlaced hplaced)
      he
  refine ⟨hplaced, fun subqueries ctx => ⟨fun hnone => ?_, hfails subqueries ctx⟩⟩
  cases hsql : Join.sql ctx { j with subqueries } with
  | ok t => exact ⟨t, rfl⟩
  | error e =>
    obtain ⟨level, hl, s, hm, hs⟩ := hfails subqueries ctx e hsql
    exact absurd hs (hnone level hl s hm e)

theorem wellPlaced_and_compiles_nested : ∃ j : Join,
    read ⟨{}, .stock⟩ "t<(u.v->Latest(a,b)*w>x[?u.a=1])[id]-s.sub[w:n]".toList = .ok j ∧
      (∀ level, Sequence j.steps level → WellPlaced j.presets level) ∧
      ∀ (subqueries : Bindings Compiled) (ctx : Context) (e : Error),
        Join.sql ctx { j with subqueries } = .error e →
        ∃ level, Sequence j.steps level ∧ ∃ s ∈ level, s.Fails { j with subqueries } ctx e := by
  have hsome : (read ⟨{}, .stock⟩
      "t<(u.v->Latest(a,b)*w>x[?u.a=1])[id]-s.sub[w:n]".toList).toOption.isSome = true := by
    decide +kernel
  obtain ⟨j, hj⟩ := Option.isSome_iff_exists.1 hsome
  have hread := eq_ok_of_toOption hj
  obtain ⟨hplaced, hcompiles⟩ := wellPlaced_and_compiles hread
  exact ⟨j, hread, hplaced, fun subqueries ctx => (hcompiles subqueries ctx).2⟩

end QueryShorthand.Join
