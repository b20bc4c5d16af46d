import QueryShorthand.Proofs.Condition.Rebinding
import QueryShorthand.Proofs.Join.Reading
import QueryShorthand.Proofs.Statement.Assignment
import QueryShorthand.Statement.Basic

/-! Statements as callers build them: a start, then any steps, all of which succeed. -/
namespace QueryShorthand

open Sql (isGlyph)

namespace Select

inductive Step where
  | distinct
  | presets (registry : Preset.Registry)
  | subquery (name : Text) (sql : Compiled)
  | tables (source : Text)
  | condition (source : Text)
  | grouping (columns : Text)
  | having (source : Text)
  | order (items : Text)
  | limit (length : Nat)
  | offset (offset : Nat)

def apply (s : Select) : Step → Except Error Select
  | .distinct => .ok s.withDistinct
  | .presets registry => .ok (s.withPresets registry)
  | .subquery name sql => .ok (s.withSubquery name sql)
  | .tables source => s.withTables source
  | .condition source => s.withCondition source
  | .grouping columns => s.withGrouping columns
  | .having source => s.withHaving source
  | .order items => s.withOrder items
  | .limit length => .ok (s.withLimit length)
  | .offset offset => .ok (s.withOffset offset)

def Step.isPlain : Step → Bool
  | presets _ => false
  | subquery _ _ => false
  | _ => true

def OrderKey.conditions : OrderKey → List Condition
  | column _ => []
  | condition c => [c]

/-- Every condition that becomes part of the statement. -/
def conditions (s : Select) : List Condition :=
  s.tables.elim [] Join.conditions ++ (s.condition.toList ++ (s.having.toList ++
    s.order.flatMap fun i => i.key.conditions))

structure Sound (s : Select) : Prop where
  items : ∀ i ∈ s.items, i.operand.Sound
  tables : ∀ j, s.tables = some j → j.subqueries = .empty ∧ j.presets = .empty
  joined : ∀ c ∈ s.tables.elim [] Join.conditions, c.Sound
  condition : ∀ c, s.condition = some c → c.Sound
  grouping : ∀ o ∈ s.grouping, o.Sound
  having : ∀ c, s.having = some c → c.Sound
  order : ∀ i ∈ s.order, ∀ c ∈ i.key.conditions, c.Sound
  subqueries : s.subqueries = .empty
  registry : s.presets = .empty

theorem sound_of_operandOf {t : Text} {o : Operand} (h : operandOf t = .ok o) : o.Sound := by
  obtain ⟨c, -, h⟩ := exists_of_bind_eq_ok h
  split at h
  · split at h
    · cases h
      trivial
    · exact Operand.sound_of_read h
  · obtain ⟨o', ho, h⟩ := exists_of_bind_eq_ok h
    split at h
    · cases h
    · cases h
      exact Operand.sound_of_read ho

theorem sound_of_item {t : Text} {i : Item} (h : Item.read t = .ok i) : i.operand.Sound := by
  unfold Item.read at h
  split at h
  · obtain ⟨o, ho, h⟩ := exists_of_bind_eq_ok h
    cases h
    exact sound_of_operandOf ho
  · obtain ⟨o, ho, h⟩ := exists_of_bind_eq_ok h
    cases h
    exact sound_of_operandOf ho

theorem sound_of_groupItem {t : Text} {o : Operand} (h : groupItem t = .ok o) : o.Sound := by
  obtain ⟨o', ho, h⟩ := exists_of_bind_eq_ok h
  split at h <;> cases h
  · trivial
  · exact Operand.sound_of_read ho

theorem sound_of_orderItem {t : Text} {i : OrderItem} (h : OrderItem.read t = .ok i) :
    ∀ c ∈ i.key.conditions, c.Sound := by
  have byCondition {descending : Bool} {rest : Text} (h : (do
        let c ← Condition.read rest
        if c.isEmpty then throw (.emptyName .orderColumn)
        return ⟨.condition c, descending⟩ : Except Error OrderItem) = .ok i) :
      ∀ c ∈ i.key.conditions, c.Sound := by
    obtain ⟨c, hc, h⟩ := exists_of_bind_eq_ok h
    split at h
    · cases h
    · cases h
      intro c' hm
      rw [List.mem_singleton.1 hm]
      exact Condition.sound_of_read hc
  unfold OrderItem.read at h
  split at h
  obtain ⟨c, -, h⟩ := exists_of_bind_eq_ok h
  split at h
  · split at h
    · exact byCondition h
    · cases h
      simp [OrderKey.conditions]
  · exact byCondition h

theorem sound_of_start {target : Target} {columns : Text} {s : Select}
    (h : start target columns = .ok s) : s.Sound := by
  obtain ⟨texts, -, h⟩ := exists_of_bind_eq_ok h
  obtain ⟨items, hi, h⟩ := exists_of_bind_eq_ok h
  split at h
  · cases h
  cases h
  refine ⟨fun i hm => ?_, by simp, by simp, by simp, by simp, by simp, by simp, rfl, rfl⟩
  obtain ⟨t, -, ht⟩ := exists_of_mapM_eq_ok hi i hm
  exact sound_of_item ht

theorem Sound.apply {s s' : Select} {step : Step} (h : s.Sound) (hp : step.isPlain = true)
    (ha : s.apply step = .ok s') : s'.Sound := by
  cases step with
  | presets registry => cases hp
  | subquery name sql => cases hp
  | distinct =>
    cases ha
    exact { h with }
  | limit length =>
    cases ha
    exact { h with }
  | offset offset =>
    cases ha
    exact { h with }
  | tables source =>
    obtain ⟨j, hj, ha⟩ := exists_of_bind_eq_ok ha
    cases ha
    obtain ⟨-, hpresets, hread⟩ := Join.plain_of_read h.registry hj
    refine { h with tables := ?_, joined := ?_ }
    · rintro _ ⟨⟩
      exact ⟨h.subqueries, hpresets⟩
    · intro c hc
      obtain ⟨t, ht⟩ := hread c hc
      exact Condition.sound_of_read ht
  | condition source =>
    obtain ⟨c, hc, ha⟩ := exists_of_bind_eq_ok ha
    cases ha
    refine { h with condition := ?_ }
    rintro _ ⟨⟩
    exact Condition.sound_of_read hc
  | having source =>
    obtain ⟨c, hc, ha⟩ := exists_of_bind_eq_ok ha
    cases ha
    refine { h with having := ?_ }
    rintro _ ⟨⟩
    exact Condition.sound_of_read hc
  | grouping columns =>
    obtain ⟨texts, -, ha⟩ := exists_of_bind_eq_ok ha
    obtain ⟨os, hos, ha⟩ := exists_of_bind_eq_ok ha
    cases ha
    refine { h with grouping := fun o hm => ?_ }
    obtain ⟨t, -, ht⟩ := exists_of_mapM_eq_ok hos o hm
    exact sound_of_groupItem ht
  | order items =>
    obtain ⟨texts, -, ha⟩ := exists_of_bind_eq_ok ha
    obtain ⟨is, his, ha⟩ := exists_of_bind_eq_ok ha
    cases ha
    refine { h with order := fun i hm => ?_ }
    obtain ⟨t, -, ht⟩ := exists_of_mapM_eq_ok his i hm
    exact sound_of_orderItem ht

end Select

namespace Insert

inductive Step where
  | replace
  | onDuplicate (columns : Text)
  | conflictTarget (columns : Text)

def apply (s : Insert) : Step → Except Error Insert
  | .replace => .ok s.withReplace
  | .onDuplicate columns => s.withOnDuplicate columns
  | .conflictTarget columns => s.withConflictTarget columns

end Insert

namespace Update

def NewValue.Sound : NewValue → Prop
  | number t => t.all isGlyph = true
  | operand o => o.Sound

structure Assignment.Sound (a : Assignment) : Prop where
  op : ∀ c, a.op = some c → isGlyph c = true
  value : a.value.Sound

structure Sound (s : Update) : Prop where
  assignments : ∀ a ∈ s.assignments, a.Sound
  condition : ∀ c, s.condition = some c → c.Sound

theorem isGlyph_of_isArithmetic {c : Char} (h : isArithmetic c = true) : isGlyph c = true := by
  simp only [isArithmetic, Bool.or_eq_true, beq_iff_eq] at h
  rcases h with (((rfl | rfl) | rfl) | rfl) | rfl <;> decide

theorem all_isGlyph_of_finiteNumeral {t : Text} (h : FiniteNumeral t) : t.all isGlyph = true := by
  obtain ⟨d, hd, -⟩ := h
  exact Sql.all_isGlyph_of_decimal (Decimal.read?_eq_some_iff.2 hd)

theorem sound_of_denotes {column t : Text} {v : NewValue} (h : Denotes column v t) : v.Sound := by
  cases h with
  | number h => exact all_isGlyph_of_finiteNumeral h
  | bound _ _ => trivial
  | operand _ h _ => exact Operand.sound_of_read h

theorem isGlyph_of_writesSign {s : Text} {op : Option Char} (h : WritesSign op s) :
    ∀ c, op = some c → isGlyph c = true := by
  cases h with
  | plain => simp
  | arithmetic hc =>
    rintro _ ⟨⟩
    exact isGlyph_of_isArithmetic hc

theorem sound_of_form {t : Text} {a : Assignment} (h : Form a t) : a.Sound := by
  cases h with
  | increment _ _ => exact ⟨by rintro _ ⟨⟩; rfl, rfl⟩
  | decrement _ _ => exact ⟨by rintro _ ⟨⟩; rfl, rfl⟩
  | bare _ => exact ⟨by simp, trivial⟩
  | assigned _ _ hs hv => exact ⟨isGlyph_of_writesSign hs, sound_of_denotes hv⟩

theorem sound_of_start {target : Target} {table expressions : Text} {s : Update}
    (h : start target table expressions = .ok s) : s.Sound := by
  obtain ⟨-, -, h⟩ := exists_of_bind_eq_ok h
  obtain ⟨texts, -, h⟩ := exists_of_bind_eq_ok h
  dsimp only at h
  split at h
  · cases h
  cases h
  refine ⟨fun a hm => ?_, by simp⟩
  obtain ⟨t, -, ht⟩ := List.mem_filterMap.1 hm
  exact sound_of_form (read?_eq_some_iff.1 ht)

theorem Sound.withCondition {s s' : Update} {source : Text} (h : s.Sound)
    (ha : s.withCondition source = .ok s') : s'.Sound := by
  obtain ⟨c, hc, ha⟩ := exists_of_bind_eq_ok ha
  cases ha
  refine { h with condition := ?_ }
  rintro _ ⟨⟩
  exact Condition.sound_of_read hc

end Update

namespace Delete

/-- The condition that filters: its own, or the one by columns. -/
def filter (s : Delete) : Option Condition := s.condition.or s.byColumns

structure Sound (s : Delete) : Prop where
  byColumns : ∀ c, s.byColumns = some c → c.Sound
  condition : ∀ c, s.condition = some c → c.Sound

theorem sound_of_start {target : Target} {table columns : Text} {s : Delete}
    (h : start target table columns = .ok s) : s.Sound := by
  obtain ⟨-, -, h⟩ := exists_of_bind_eq_ok h
  obtain ⟨names, -, h⟩ := exists_of_bind_eq_ok h
  split at h
  · cases h
    exact ⟨by simp, by simp⟩
  · obtain ⟨c, hc, h⟩ := exists_of_bind_eq_ok h
    cases h
    refine ⟨?_, by simp⟩
    rintro _ ⟨⟩
    exact Condition.sound_of_read hc

theorem Sound.withCondition {s s' : Delete} {source : Text} (h : s.Sound)
    (ha : s.withCondition source = .ok s') : s'.Sound := by
  obtain ⟨c, hc, ha⟩ := exists_of_bind_eq_ok ha
  cases ha
  refine { h with condition := ?_ }
  rintro _ ⟨⟩
  exact Condition.sound_of_read hc

end Delete

namespace Statement

/-- Built from a start by steps that succeed, none of which brings in presets or a sub-query. Values
can be bound at any time; assigning and merging are both a change of the whole bag. -/
inductive Plain : Statement → Prop where
  | startSelect {target : Target} {columns : Text} {s : Select}
      (h : Select.start target columns = .ok s) : Plain (.select s)
  | startInsert {target : Target} {table columns : Text} {s : Insert}
      (h : Insert.start target table columns = .ok s) : Plain (.insert s)
  | startUpdate {target : Target} {table expressions : Text} {s : Update}
      (h : Update.start target table expressions = .ok s) : Plain (.update s)
  | startDelete {target : Target} {table columns : Text} {s : Delete}
      (h : Delete.start target table columns = .ok s) : Plain (.delete s)
  | params {s : Statement} (params : Parameters) (h : Plain s) : Plain (s.withParams params)
  | select {s s' : Select} {step : Select.Step} (h : Plain (.select s)) (hp : step.isPlain = true)
      (ha : s.apply step = .ok s') : Plain (.select s')
  | insert {s s' : Insert} {step : Insert.Step} (h : Plain (.insert s))
      (ha : s.apply step = .ok s') : Plain (.insert s')
  | update {s s' : Update} {source : Text} (h : Plain (.update s))
      (ha : s.withCondition source = .ok s') : Plain (.update s')
  | delete {s s' : Delete} {source : Text} (h : Plain (.delete s))
      (ha : s.withCondition source = .ok s') : Plain (.delete s')

def Sound : Statement → Prop
  | select s => s.Sound
  | insert _ => True
  | update s => s.Sound
  | delete s => s.Sound
  | raw _ => False

theorem Plain.sound {s : Statement} (h : s.Plain) : s.Sound := by
  induction h with
  | startSelect h => exact Select.sound_of_start h
  | startInsert h => trivial
  | startUpdate h => exact Update.sound_of_start h
  | startDelete h => exact Delete.sound_of_start h
  | @params s params _ ih =>
    cases s with
    | select s => exact { ih with }
    | insert s => trivial
    | update s => exact { ih with }
    | delete s => exact { ih with }
    | raw s => exact ih.elim
  | select _ hp ha ih => exact Select.Sound.apply ih hp ha
  | insert _ _ _ => trivial
  | update _ ha ih => exact Update.Sound.withCondition ih ha
  | delete _ ha ih => exact Delete.Sound.withCondition ih ha

end Statement

end QueryShorthand
