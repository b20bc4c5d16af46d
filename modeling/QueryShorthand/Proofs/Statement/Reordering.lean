import QueryShorthand.Proofs.Statement.Builder

/-! Steps of a builder in another order. Those that set different parts of the statement commute. -/
namespace QueryShorthand

section

variable {σ α : Type} {f : σ → α → σ} {rank : α → Nat} {Apart : α → α → Prop}

theorem foldl_append_singleton (hcomm : ∀ x y s, Apart x y → f (f s x) y = f (f s y) x)
    {front : List α} {x : α} (h : ∀ y ∈ front, Apart y x) (s : σ) :
    f (front.foldl f s) x = front.foldl f (f s x) := by
  induction front generalizing s with
  | nil => rfl
  | cons y front ih =>
    obtain ⟨hy, hfront⟩ := List.forall_mem_cons.1 h
    rw [List.foldl_cons, List.foldl_cons, ih hfront, hcomm y x s hy]

/-- A list whose ranks ascend may be folded in any order that keeps the ranks of those which do not
commute. -/
theorem foldl_eq_of_perm (hcomm : ∀ x y s, Apart x y → f (f s x) y = f (f s y) x) {l l' : List α}
    (hl : l.Pairwise fun x y => rank x < rank y) (hp : l'.Perm l)
    (hl' : l'.Pairwise fun x y => Apart x y ∨ rank x < rank y) (s : σ) :
    l'.foldl f s = l.foldl f s := by
  induction l generalizing l' s with
  | nil => rw [hp.eq_nil]
  | cons x l ih =>
    obtain ⟨front, behind, rfl⟩ := List.append_of_mem (hp.mem_iff.2 List.mem_cons_self)
    obtain ⟨hfirst, hl⟩ := List.pairwise_cons.1 hl
    obtain ⟨hfront, hbehind, hacross⟩ := List.pairwise_append.1 hl'
    have hrest : (front ++ behind).Perm l := (List.perm_middle.symm.trans hp).cons_inv
    -- `x` has the least rank, so nothing that stands before it had to.
    have hapart : ∀ y ∈ front, Apart y x := by
      intro y hy
      have hrank := hfirst y (hrest.mem_iff.1 (List.mem_append_left _ hy))
      rcases hacross y hy x List.mem_cons_self with h | h
      · exact h
      · omega
    have hkept : (front ++ behind).Pairwise fun x y => Apart x y ∨ rank x < rank y := by
      refine List.pairwise_append.2 ⟨hfront, (List.pairwise_cons.1 hbehind).2, fun y hy z hz => ?_⟩
      exact hacross y hy z (List.mem_cons_of_mem _ hz)
    rw [List.foldl_append, List.foldl_cons, foldl_append_singleton hcomm
      hapart, ← List.foldl_append, ih hl hrest hkept, List.foldl_cons]

end

namespace Bindings

variable {α : Type} {vs vs' : List (Text × α)}

theorem insertAll_insert {k : Text} (h : ∀ e ∈ vs, e.1 ≠ k) (b : Bindings α) (v : α) :
    (b.insert k v).insertAll vs = (b.insertAll vs).insert k v := by
  induction vs generalizing b with
  | nil => rfl
  | cons e vs ih =>
    obtain ⟨he, hvs⟩ := List.forall_mem_cons.1 h
    show ((b.insert k v).insert e.1 e.2).insertAll vs = _
    rw [insert_comm b (Ne.symm he), ih hvs]
    rfl

theorem insertAll_comm (h : ∀ e ∈ vs, ∀ e' ∈ vs', e.1 ≠ e'.1) (b : Bindings α) :
    (b.insertAll vs).insertAll vs' = (b.insertAll vs').insertAll vs := by
  induction vs' generalizing b with
  | nil => rfl
  | cons e' vs' ih =>
    show ((b.insertAll vs).insert e'.1 e'.2).insertAll vs' =
      ((b.insert e'.1 e'.2).insertAll vs').insertAll vs
    rw [← insertAll_insert fun e he => h e he e' List.mem_cons_self,
      ih fun e he x hx => h e he x (List.mem_cons_of_mem _ hx)]

end Bindings

namespace Select

/-- A step of a clause, or a value that is bound. -/
inductive Act where
  | clause (step : Step)
  | assign (name : Text) (v : Value)
  | merge (values : List (Text × Value))
  | bind (name : Text) (nested : Nested)

inductive Acts : Select → Act → Select → Prop where
  | clause {s s' : Select} {step : Step} (h : s.apply step = .ok s') : Acts s (.clause step) s'
  | assign {s s' : Select} (name : Text) (v : Value)
      (h : (Statement.select s).assign name v = .select s') :
      Acts s (.assign name v) s'
  | merge {s s' : Select} (values : List (Text × Value))
      (h : (Statement.select s).merge values = .select s') :
      Acts s (.merge values) s'
  | bind {s s' : Select} (name : Text) (nested : Nested)
      (h : (Statement.select s).bind name nested = .select s') : Acts s (.bind name nested) s'

inductive Run : Select → List Act → Select → Prop where
  | nil (s : Select) : Run s [] s
  | cons {s s' s'' : Select} {act : Act} {acts : List Act} (h : Acts s act s')
      (hr : Run s' acts s'') :
      Run s (act :: acts) s''

/-- A part of a statement that an act can set. -/
inductive Part where
  | distinct
  | tables
  | condition
  | grouping
  | having
  | order
  | limit
  | offset
  | subquery (name : Text)
  | parameter (name : Text)

def Step.parts : Step → List Part
  | distinct => [.distinct]
  | presets _ => []
  | subquery name _ => [.subquery name]
  | tables _ => [.tables]
  | condition _ => [.condition]
  | grouping _ => [.grouping]
  | having _ => [.having]
  | order _ => [.order]
  | limit _ => [.limit]
  | offset _ => [.offset]

namespace Act

/-- The parts that an act sets. The presets are none: only tables that are set later depend on
them. -/
def parts : Act → List Part
  | clause step => step.parts
  | assign name _ => [.parameter name]
  | merge values => values.map fun v => .parameter v.1
  | bind name _ => [.parameter name]

def registry? : Act → Option Preset.Registry
  | clause (.presets registry) => some registry
  | _ => none

end Act

/-- An act with its place in a sequence and the registries that were given before it. -/
structure Placed where
  act : Act
  place : Nat
  registries : List Preset.Registry

def placed (registries : List Preset.Registry) (place : Nat) : List Act → List Placed
  | [] => []
  | act :: acts =>
    ⟨act, place, registries⟩ :: placed (registries ++ act.registry?.toList) (place + 1) acts

/-- The same acts in an order that keeps those which set the same part as they were, and sets tables
behind the same registries. -/
def Reordering (acts acts' : List Act) : Prop :=
  ∃ moved : List Placed, moved.Perm (placed [] 0 acts) ∧ moved.map Placed.act = acts' ∧
    (moved.Pairwise fun x y => ∀ part ∈ x.act.parts, part ∈ y.act.parts → x.place < y.place) ∧
    ∀ front source place registries behind,
      moved = front ++ ⟨.clause (.tables source), place, registries⟩ :: behind →
        front.filterMap (fun x => x.act.registry?) = registries

/-- An act with everything read that it needs to read. -/
inductive Update where
  | distinct
  | subquery (name : Text) (sql : Compiled)
  | tables (join : Join)
  | condition (c : Condition)
  | grouping (items : List Operand)
  | having (c : Condition)
  | order (items : List OrderItem)
  | limit (length : Nat)
  | offset (offset : Nat)
  | values (values : List (Text × Value))

def Update.parts : Update → List Part
  | distinct => [.distinct]
  | subquery name _ => [.subquery name]
  | tables _ => [.tables]
  | condition _ => [.condition]
  | grouping _ => [.grouping]
  | having _ => [.having]
  | order _ => [.order]
  | limit _ => [.limit]
  | offset _ => [.offset]
  | values vs => vs.map fun v => .parameter v.1

def updated (s : Select) : Update → Select
  | .distinct => { s with distinct := true }
  | .subquery name sql => s.withSubquery name sql
  | .tables join => { s with tables := some { join with subqueries := s.subqueries } }
  | .condition c => { s with condition := some c }
  | .grouping items => { s with grouping := items }
  | .having c => { s with having := some c }
  | .order items => { s with order := items }
  | .limit length => { s with limit := some length }
  | .offset offset => { s with offset := some offset }
  | .values vs => { s with context := { s.context with params := s.context.params.insertAll vs } }

def Step.update (target : Target) (registry : Preset.Registry) : Step → Except Error Update
  | distinct => .ok .distinct
  | presets _ => .ok (.values [])
  | subquery name sql => .ok (.subquery name sql)
  | tables source => (Join.read ⟨target, registry⟩ source).map .tables
  | condition source => (Condition.read source).map .condition
  | grouping columns =>
    (Token.commaList columns >>= fun items => items.mapM groupItem).map .grouping
  | having source => (Condition.read source).map .having
  | order items => (Token.commaList items >>= fun items => items.mapM OrderItem.read).map .order
  | limit length => .ok (.limit length)
  | offset n => .ok (.offset n)

def Act.update (target : Target) (registry : Preset.Registry) : Act → Except Error Update
  | clause step => step.update target registry
  | assign name v => .ok (.values [(name, v)])
  | merge values => .ok (.values values)
  | bind name nested => .ok (.values [(name, .statement nested)])

variable {s s' : Select} {u u' : Update} {act : Act} {acts : List Act} {target : Target}
  {registry : Preset.Registry}

theorem updated_comm (h : ∀ part ∈ u.parts, part ∉ u'.parts) (s : Select) :
    (s.updated u).updated u' = (s.updated u').updated u := by
  cases u with
  | subquery name sql => cases u' with
    | subquery name' sql' =>
      have hne : name ≠ name' := by
        rintro rfl
        exact h _ (.head _) (.head _)
      simp only [updated, withSubquery, Bindings.insert_comm _ hne]
      cases s.tables with
      | none => rfl
      | some join =>
        simp only [Option.map_some, Join.withSubquery, Bindings.insert_comm _ hne]
    | _ => rfl
  | values vs => cases u' with
    | values vs' =>
      have hne : ∀ e ∈ vs, ∀ e' ∈ vs', e.1 ≠ e'.1 := by
        intro e he e' he' heq
        refine h (.parameter e.1) (List.mem_map.2 ⟨e, he, rfl⟩) (List.mem_map.2 ⟨e', he', ?_⟩)
        rw [heq]
      simp only [updated, Bindings.insertAll_comm hne]
    | _ => rfl
  | _ => cases u' <;> first | rfl | exact absurd (.head _) (h _ (.head _))

/-- The statement after an update; what is not updated are the presets, which an act may replace. -/
def after (s : Select) (act : Act) (u : Update) : Select :=
  { s.updated u with presets := act.registry?.getD s.presets }

theorem apply_eq (s : Select) (step : Step) :
    s.apply step = (step.update s.context.target s.presets).map (s.after (.clause step)) := by
  cases step with
  | tables source =>
    show s.withTables source = _
    rw [withTables, Step.update]
    cases Join.read ⟨s.context.target, s.presets⟩ source <;> rfl
  | condition source =>
    show s.withCondition source = _
    rw [withCondition, Step.update]
    cases Condition.read source <;> rfl
  | grouping columns =>
    show s.withGrouping columns = _
    rw [withGrouping, Step.update, ← bind_assoc]
    cases Token.commaList columns >>= fun items => items.mapM groupItem <;> rfl
  | having source =>
    show s.withHaving source = _
    rw [withHaving, Step.update]
    cases Condition.read source <;> rfl
  | order items =>
    show s.withOrder items = _
    rw [withOrder, Step.update, ← bind_assoc]
    cases Token.commaList items >>= fun items => items.mapM OrderItem.read <;> rfl
  | _ => rfl

/-- What an act does is settled by the target and the presets in effect alone. -/
theorem acts_iff : Acts s act s' ↔
    ∃ u, act.update s.context.target s.presets = .ok u ∧ s' = s.after act u := by
  constructor
  · intro h
    cases h with
    | clause h =>
      rw [apply_eq] at h
      obtain ⟨u, hu, rfl⟩ := exists_of_map_eq_ok h
      exact ⟨u, hu, rfl⟩
    | assign name v h =>
      cases h
      exact ⟨_, rfl, rfl⟩
    | merge values h =>
      cases h
      exact ⟨_, rfl, rfl⟩
    | bind name nested h =>
      cases h
      exact ⟨_, rfl, rfl⟩
  · rintro ⟨u, hu, rfl⟩
    cases act with
    | clause step =>
      refine .clause ?_
      rw [apply_eq]
      show (step.update _ _).map _ = _
      rw [show step.update s.context.target s.presets = .ok u from hu]
      rfl
    | assign name v =>
      cases hu
      exact .assign name v rfl
    | merge values =>
      cases hu
      exact .merge values rfl
    | bind name nested =>
      cases hu
      exact .bind name nested rfl

theorem mem_parts_of_update {part : Part} (h : act.update target registry = .ok u)
    (hp : part ∈ u.parts) :
    part ∈ act.parts := by
  cases act with
  | clause step =>
    cases step with
    | presets registry =>
      cases h
      cases hp
    | distinct | subquery | limit | offset =>
      cases h
      exact hp
    | tables | condition | grouping | having | order =>
      obtain ⟨x, -, rfl⟩ := exists_of_map_eq_ok h
      exact hp
  | assign | merge | bind =>
    cases h
    exact hp

theorem update_eq (h : ∀ source, act ≠ .clause (.tables source))
    (registry registry' : Preset.Registry) :
    act.update target registry = act.update target registry' := by
  cases act with
  | clause step =>
    cases step with
    | tables source => exact absurd rfl (h source)
    | _ => rfl
  | _ => rfl

theorem target_after (s : Select) (act : Act) (u : Update) :
    (s.after act u).context.target = s.context.target := by
  cases u <;> rfl

/-- The statement without its presets, which do not matter to its SQL. -/
def bare (s : Select) : Select := { s with presets := .empty }

theorem bare_after (s : Select) (act : Act) (u : Update) :
    (s.after act u).bare = s.bare.updated u := by
  cases u <;> rfl

theorem sql_bare (s : Select) : s.bare.sql = s.sql := rfl

def inEffect (initial : Preset.Registry) (registries : List Preset.Registry) : Preset.Registry :=
  registries.getLast?.getD initial

theorem inEffect_act (initial : Preset.Registry) (registries : List Preset.Registry) (act : Act) :
    inEffect initial (registries ++ act.registry?.toList) =
      act.registry?.getD (inEffect initial registries) := by
  cases act.registry? with
  | none => rw [Option.toList_none, List.append_nil, Option.getD_none]
  | some registry =>
    rw [inEffect, Option.toList_some, List.getLast?_concat, Option.getD_some, Option.getD_some]

namespace Placed

variable {target : Target} {initial : Preset.Registry} {x : Placed}

def update (target : Target) (initial : Preset.Registry) (x : Placed) : Except Error Update :=
  x.act.update target (inEffect initial x.registries)

def effect (target : Target) (initial : Preset.Registry) (x : Placed) : Update :=
  (x.update target initial).toOption.getD (.values [])

theorem effect_of_update {u : Update} (h : x.update target initial = .ok u) :
    x.effect target initial = u := by
  rw [effect, h]
  rfl

theorem mem_parts_of_effect {part : Part} (h : part ∈ (x.effect target initial).parts) :
    part ∈ x.act.parts := by
  cases hx : x.update target initial with
  | ok u =>
    rw [effect_of_update hx] at h
    exact mem_parts_of_update hx h
  | error e =>
    rw [effect, hx] at h
    cases h

end Placed

def settled (target : Target) (initial : Preset.Registry) (s : Select) (x : Placed) : Select :=
  s.updated (x.effect target initial)

theorem settled_comm (target : Target) (initial : Preset.Registry) (x y : Placed) (s : Select)
    (h : ∀ part ∈ x.act.parts, part ∉ y.act.parts) :
    settled target initial (settled target initial s x) y =
      settled target initial (settled target initial s y) x := by
  refine updated_comm (fun part hx hy => ?_) s
  exact h part (Placed.mem_parts_of_effect hx) (Placed.mem_parts_of_effect hy)

variable {initial : Preset.Registry} {registries : List Preset.Registry} {place : Nat}

theorem le_place {x : Placed} (h : x ∈ placed registries place acts) : place ≤ x.place := by
  induction acts generalizing registries place with
  | nil => cases h
  | cons act acts ih =>
    rcases List.mem_cons.1 h with rfl | h
    · exact Nat.le_refl _
    · exact Nat.le_of_succ_le (ih h)

theorem pairwise_placed (registries : List Preset.Registry) (place : Nat) (acts : List Act) :
    (placed registries place acts).Pairwise fun x y => x.place < y.place := by
  induction acts generalizing registries place with
  | nil => exact .nil
  | cons act acts ih => exact .cons (fun x hx => le_place hx) (ih _ _)

theorem updates_of_run (h : Run s acts s') (hs : s.presets = inEffect initial registries)
    (place : Nat) :
    (∀ x ∈ placed registries place acts, ∃ u, x.update s.context.target initial = .ok u) ∧
      s'.bare = (placed registries place acts).foldl (settled s.context.target initial) s.bare := by
  induction h generalizing registries place with
  | nil s => exact ⟨by simp [placed], rfl⟩
  | @cons s t s' act acts h _ ih =>
    obtain ⟨u, hu, rfl⟩ := acts_iff.1 h
    have hfirst : Placed.update s.context.target initial ⟨act, place, registries⟩ = .ok u := by
      rw [Placed.update, ← hs]
      exact hu
    have hpresets :
        (s.after act u).presets = inEffect initial (registries ++ act.registry?.toList) := by
      rw [inEffect_act, ← hs]
      rfl
    obtain ⟨hrest, hbare⟩ := ih hpresets (place + 1)
    rw [target_after] at hrest hbare
    refine ⟨List.forall_mem_cons.2 ⟨⟨u, hfirst⟩, hrest⟩, ?_⟩
    rw [hbare, placed, List.foldl_cons, settled, Placed.effect_of_update hfirst, bare_after]

theorem exists_run {moved : List Placed}
    (hupdates : ∀ x ∈ moved, ∃ u, x.update s.context.target initial = .ok u)
    (htables : ∀ front source place given behind,
      moved = front ++ ⟨.clause (.tables source), place, given⟩ :: behind →
      registries ++ front.filterMap (fun x => x.act.registry?) = given)
    (hs : s.presets = inEffect initial registries) :
    ∃ s', Run s (moved.map Placed.act) s' ∧
      s'.bare = moved.foldl (settled s.context.target initial) s.bare := by
  induction moved generalizing s registries with
  | nil => exact ⟨s, .nil s, rfl⟩
  | cons x moved ih =>
    obtain ⟨⟨u, hu⟩, hmoved⟩ := List.forall_mem_cons.1 hupdates
    have hact : x.act.update s.context.target s.presets = .ok u := by
      by_cases hx : ∃ source, x.act = .clause (.tables source)
      · obtain ⟨source, hx⟩ := hx
        have hgiven := htables [] source x.place x.registries moved (by rw [← hx]; rfl)
        rw [hs, show registries = x.registries by simpa using hgiven]
        exact hu
      · rw [update_eq (fun source h => hx ⟨source, h⟩) _ (inEffect initial x.registries)]
        exact hu
    have hpresets :
        (s.after x.act u).presets = inEffect initial (registries ++ x.act.registry?.toList) := by
      rw [inEffect_act, ← hs]
      rfl
    have hbehind : ∀ front source place given behind,
        moved = front ++ ⟨.clause (.tables source), place, given⟩ :: behind →
          registries ++ x.act.registry?.toList ++ front.filterMap (fun x => x.act.registry?) =
            given := by
      intro front source place given behind h
      have hgiven := htables (x :: front) source place given behind (by rw [h]; rfl)
      cases hx : x.act.registry? <;> simpa [hx] using hgiven
    have hupdates' :
        ∀ y ∈ moved, ∃ u', y.update (s.after x.act u).context.target initial = .ok u' := by
      rw [target_after]
      exact hmoved
    obtain ⟨s', hrun, hbare⟩ := ih hupdates' hbehind hpresets
    refine ⟨s', .cons (acts_iff.2 ⟨u, hact, rfl⟩) hrun, ?_⟩
    rw [hbare, target_after, bare_after, List.foldl_cons, settled, Placed.effect_of_update hu]

/-- The tables have the sub-queries of the statement. -/
def InStep (s : Select) : Prop := ∀ join, s.tables = some join → join.subqueries = s.subqueries

theorem InStep.after (h : s.InStep) (act : Act) (u : Update) : (s.after act u).InStep := by
  cases u with
  | tables join =>
    rintro _ ⟨⟩
    rfl
  | subquery name sql =>
    intro join hj
    obtain ⟨before, hbefore, rfl⟩ := Option.map_eq_some_iff.1 hj
    exact congrArg (fun b => b.insert name sql) (h before hbefore)
  | _ => exact h

theorem Run.inStep (hr : Run s acts s') (h : s.InStep) : s'.InStep := by
  induction hr with
  | nil => exact h
  | cons hact _ ih =>
    obtain ⟨u, -, rfl⟩ := acts_iff.1 hact
    exact ih (h.after _ u)

theorem inStep_of_start {columns : Text} (h : start target columns = .ok s) : s.InStep := by
  obtain ⟨texts, -, h⟩ := exists_of_bind_eq_ok h
  obtain ⟨items, -, h⟩ := exists_of_bind_eq_ok h
  split at h
  · cases h
  · cases h
    rintro join ⟨⟩

theorem exists_run_of_reordering {acts' : List Act} (h : Run s acts s')
    (hr : Reordering acts acts') :
    ∃ t, Run s acts' t ∧ t.sql = s'.sql := by
  obtain ⟨moved, hperm, rfl, hkept, htables⟩ := hr
  have hstart : s.presets = inEffect s.presets [] := rfl
  obtain ⟨hupdates, hbare⟩ := updates_of_run h hstart 0
  obtain ⟨t, hrun, hbare'⟩ :=
    exists_run (fun x hx => hupdates x (hperm.mem_iff.1 hx)) htables hstart
  refine ⟨t, hrun, ?_⟩
  have hmoved :
      moved.Pairwise fun x y => (∀ part ∈ x.act.parts, part ∉ y.act.parts) ∨ x.place < y.place := by
    refine hkept.imp fun {x y} hxy => ?_
    by_cases hpart : ∃ part ∈ x.act.parts, part ∈ y.act.parts
    · obtain ⟨part, hx, hy⟩ := hpart
      exact .inr (hxy part hx hy)
    · exact .inl fun part hx hy => hpart ⟨part, hx, hy⟩
  have hsame :=
    foldl_eq_of_perm (settled_comm s.context.target s.presets) (pairwise_placed [] 0 acts) hperm
    hmoved s.bare
  rw [← sql_bare t, hbare', hsame, ← hbare, sql_bare]

/-- The sub-queries of the tables keep up with those of the statement, and the steps of a builder
may be taken in any order that keeps those which set the same part, and the presets before each
FROM. -/
theorem sql_of_reordering {columns : Text} {s₀ : Select} (hstart : start target columns = .ok s₀)
    (h : Run s₀ acts s) :
    (∀ join, s.tables = some join → join.subqueries = s.subqueries) ∧
      ∀ acts', Reordering acts acts' → ∃ s', Run s₀ acts' s' ∧ s'.sql = s.sql :=
  ⟨h.inStep (inStep_of_start hstart), fun _ hr => exists_run_of_reordering h hr⟩

/-- A sub-query is registered after the tables that it was registered before. -/
theorem sql_of_reordering_subquery : ∃ s₀ s s' : Select, ∃ acts acts' : List Act,
    acts = [.clause (.subquery ['q'] (.ok "SELECT 1".toList)), .clause (.tables "a.q".toList),
      .assign ['n'] .null] ∧
    acts' = [.clause (.tables "a.q".toList), .assign ['n'] .null,
      .clause (.subquery ['q'] (.ok "SELECT 1".toList))] ∧
    start {} ['x'] = .ok s₀ ∧ Run s₀ acts s ∧ Reordering acts acts' ∧ Run s₀ acts' s' ∧
    s'.sql = s.sql := by
  obtain ⟨s₀, hstart⟩ := exists_of_isOk (by decide +kernel : (start {} ['x']).isOk = true)
  obtain ⟨join, hjoin⟩ :=
    exists_of_isOk (by decide +kernel : (Join.read ⟨{}, .empty⟩ "a.q".toList).isOk = true)
  have htarget : s₀.context.target = {} ∧ s₀.presets = .empty := by
    obtain ⟨texts, -, h⟩ := exists_of_bind_eq_ok hstart
    obtain ⟨items, -, h⟩ := exists_of_bind_eq_ok h
    split at h <;> cases h
    exact ⟨rfl, rfl⟩
  let registered := s₀.withSubquery ['q'] (.ok "SELECT 1".toList)
  have hregistered : s₀.apply (.subquery ['q'] (.ok "SELECT 1".toList)) = .ok registered := rfl
  have htables : registered.apply (.tables "a.q".toList) = .ok
      { registered with tables := some { join with subqueries := registered.subqueries } } := by
    show registered.withTables "a.q".toList = _
    rw [withTables, show registered.context.target = {} from htarget.1,
      show registered.presets = .empty from htarget.2, hjoin]
    rfl
  have hrun : Run s₀ _ _ :=
    .cons (.clause hregistered) (.cons (.clause htables) (.cons (.assign ['n'] .null rfl) (.nil _)))
  have hreordering : Reordering
      [.clause (.subquery ['q'] (.ok "SELECT 1".toList)), .clause (.tables "a.q".toList),
        .assign ['n'] .null]
      [.clause (.tables "a.q".toList), .assign ['n'] .null,
        .clause (.subquery ['q'] (.ok "SELECT 1".toList))] := by
    refine ⟨[⟨.clause (.tables "a.q".toList), 1, []⟩, ⟨.assign ['n'] .null, 2, []⟩,
      ⟨.clause (.subquery ['q'] (.ok "SELECT 1".toList)), 0, []⟩], ?_, rfl, ?_, ?_⟩
    · exact @List.perm_append_comm _ [_, _] [_]
    · simp [Act.parts, Step.parts]
    · rintro (_ | ⟨x, front⟩) source place registries behind h
      · cases h
        rfl
      · simp [List.cons_eq_append_iff] at h
  obtain ⟨s', hrun', hsql⟩ := (sql_of_reordering hstart hrun).2 _ hreordering
  exact ⟨s₀, _, s', _, _, rfl, rfl, hstart, hrun, hreordering, hrun', hsql⟩

end Select

end QueryShorthand
