import QueryShorthand.Proofs.Operand.Spelling
import QueryShorthand.Proofs.Statement.Assignment
import QueryShorthand.Statement.Basic

/-! The grammar of assignments, and what an UPDATE sets. -/
namespace QueryShorthand.Update

open Operand (commas Entry entry_of_solid entry_chars scans_comma usual_commas)

/-- What a column is set to. Behind an operator the old value stands. -/
inductive Setting where
  | increment
  | decrement
  | bound (op : Option Char)
  | number (op : Option Char) (numeral : Text)
  | operand (op : Option Char) (o : Operand)

structure Change where
  column : Text
  setting : Setting

namespace Change

def assignment (c : Change) : Assignment :=
  match c.setting with
  | .increment => ⟨c.column, some '+', .number ['1']⟩
  | .decrement => ⟨c.column, some '-', .number ['1']⟩
  | .bound op => ⟨c.column, op, .operand (.parameter c.column)⟩
  | .number op t => ⟨c.column, op, .number t⟩
  | .operand op o => ⟨c.column, op, .operand o⟩

inductive WritesValue (op : Option Char) : Setting → Text → Prop where
  | bound : WritesValue op (.bound op) ['?']
  | number {t : Text} (h : FiniteNumeral t) : WritesValue op (.number op t) t
  /-- A number that is finite is not taken for an operand. -/
  | operand {o : Operand} {t : Text} (h : o.Spells t) (ho : o.IsAssignable) (hw : ¬ o.IsWildcard)
      (hn : ¬ FiniteNumeral t) : WritesValue op (.operand op o) t

inductive Writes : Change → Text → Prop where
  | increment {column q b : Text} (h : Name.Writes column q) (hb : b.Blank) :
      Writes ⟨column, .increment⟩ (q ++ (b ++ ['+', '+']))
  | decrement {column q b : Text} (h : Name.Writes column q) (hb : b.Blank) :
      Writes ⟨column, .decrement⟩ (q ++ (b ++ ['-', '-']))
  | bare {column q : Text} (h : Name.Writes column q) : Writes ⟨column, .bound none⟩ q
  | assigned {column q b s b' v : Text} {op : Option Char} {setting : Setting}
      (h : Name.Writes column q)
      (hb : b.Blank) (hs : WritesSign op s) (hb' : b'.Blank) (hv : WritesValue op setting v) :
      Writes ⟨column, setting⟩ (q ++ (b ++ (s ++ (b' ++ v))))

variable {c : Change} {t v b b' : Text} {op : Option Char} {setting : Setting}

theorem WritesValue.entry (h : WritesValue op setting v) : Entry v := by
  cases h with
  | bound => exact entry_of_solid Operand.legible_auto.solid
  | number h =>
    obtain ⟨d, hd, -⟩ := h
    exact entry_of_solid hd.solid
  | operand h _ _ _ => exact h.item.part.toEntry

theorem not_finiteNumeral_auto : ¬ FiniteNumeral ['?'] := by
  rw [← isFiniteNumber_iff]
  decide

theorem WritesValue.denotes (h : WritesValue op setting v) (column : Text) :
    ∃ n, Denotes column n v ∧ (⟨column, setting⟩ : Change).assignment = ⟨column, op, n⟩ := by
  cases h with
  | bound => exact ⟨_, .bound not_finiteNumeral_auto Operand.legible_auto.read, rfl⟩
  | number h => exact ⟨_, .number h, rfl⟩
  | operand h ho hw hn => exact ⟨_, .operand hn (h.read hw) ho, rfl⟩

theorem Writes.form (h : c.Writes t) : Form c.assignment t := by
  cases h with
  | increment h hb => exact .increment h.spells hb
  | decrement h hb => exact .decrement h.spells hb
  | bare h => exact .bare h.spells
  | @assigned column q b s b' v op setting h hb hs hb' hv =>
    obtain ⟨n, hn, ha⟩ := hv.denotes column
    have htrim : (b' ++ v).trim = v := by
      have hpadded : (b' ++ (v ++ [])).trim = v.trim := Text.trim_padded hb' Text.blank_nil
      rwa [List.append_nil, hv.entry.trim] at hpadded
    rw [ha]
    rw [← htrim] at hn
    exact .assigned h.spells hb hs hn

theorem entry_sign {s : Text} (h : WritesSign op s) : Entry s := by
  have equals : Entry ['='] := entry_chars (by simp) (Text.forall_mem_of_all (by decide))
  cases h with
  | plain => exact equals
  | @arithmetic c hc =>
    by_cases hminus : c = '-'
    · subst hminus
      exact ⟨⟨'-', _, rfl, by decide⟩, ⟨'=', rfl, by decide⟩,
        fun _ => Cutter.inside_minus usual_commas (by decide) (equals.inside false)⟩
    · simp only [isArithmetic, Bool.or_eq_true, beq_iff_eq, hminus, false_or] at hc
      rcases hc with ((rfl | rfl) | rfl) | rfl <;>
        exact entry_chars (by simp) (Text.forall_mem_of_all (by decide))

theorem scans_hyphen {level : Level} {levels : List Level} {word : Bool} {r : Text}
    {ts : List Token} (hr : r.head? ≠ some '>')
    (h : commas.Scans (level.add ['-'] :: levels) false r ts) :
    commas.Scans (level :: levels) word ('-' :: r) ts := by
  refine .plain (by simp [Cutter.Groups]) ?_ (usual_commas.heads.mark?_eq_none (by decide)) h
  rw [span?, if_neg (by decide), if_neg (by decide), if_neg (by simp), arrow?_hyphen hr]

theorem head?_blank (hb : b.Blank) {d : Char} (hd : isBlank d = false) : b.head? ≠ some d := by
  intro h
  rw [hb d (List.mem_of_mem_head? h)] at hd
  cases hd

theorem trim_decrement {column q : Text} (h : Name.Writes column q) (v : Text) :
    (q ++ (v ++ ['-', '-'])).trim = q ++ (v ++ ['-', '-']) := by
  obtain ⟨d, r, rfl, hd, -⟩ := h.solid.head
  have hlast : (d :: r ++ (v ++ ['-', '-'])).getLast? = some '-' := by
    rw [List.getLast?_append, List.getLast?_append]
    rfl
  exact Text.trim_of_ends rfl hd hlast (by decide)

/-- A decrement ends with hyphens, so what stands behind it matters. -/
theorem scans_decrement {column q : Text} (h : Name.Writes column q) (hv : v.Blank) (hb : b.Blank)
    (hb' : b'.Blank) :
    commas.Scans [{}] false (b ++ (q ++ (v ++ ['-', '-']) ++ b'))
      [.leaf (q ++ (v ++ ['-', '-']))] := by
  have hinside : commas.Inside false (b ++ (q ++ v)) :=
    (inside_blank usual_commas hb).append
      ((h.solid.inside usual_commas).append (inside_blank usual_commas hv))
  have htrim : (b ++ (q ++ (v ++ ['-', '-']) ++ b')).trim = q ++ (v ++ ['-', '-']) := by
    rw [Text.trim_padded hb hb', trim_decrement h]
  have htext : b ++ (q ++ (v ++ ['-', '-']) ++ b') = (b ++ (q ++ v)) ++ '-' :: '-' :: b' := by simp
  rw [htext] at htrim ⊢
  generalize b ++ (q ++ v) = x at hinside htrim
  have hscans : commas.Scans [{}] false (x ++ '-' :: '-' :: b') _ :=
    hinside.scans (scans_hyphen (by simp)
    (scans_hyphen (head?_blank hb' (by decide)) ((inside_blank usual_commas hb').ends _)))
  simpa [Level.complete, Level.last, Level.add, htrim] using hscans

theorem Writes.entry (h : c.Writes t) :
    Entry t ∨ ∃ column q v, Name.Writes column q ∧ v.Blank ∧ t = q ++ (v ++ ['-', '-']) := by
  cases h with
  | increment h hb =>
    have plus : Entry ['+', '+'] := entry_chars (by simp) (Text.forall_mem_of_all (by decide))
    exact .inl ((entry_of_solid h.solid).spaced hb plus)
  | decrement h hb => exact .inr ⟨_, _, _, h, hb, rfl⟩
  | bare h => exact .inl (entry_of_solid h.solid)
  | assigned h hb hs hb' hv =>
    have value : Entry _ := (entry_sign hs).spaced hb' hv.entry
    exact .inl ((entry_of_solid h.solid).spaced hb value)

theorem Writes.trim (h : c.Writes t) : t.trim = t := by
  rcases h.entry with hentry | ⟨column, q, v, hq, -, rfl⟩
  · exact hentry.trim
  · exact trim_decrement hq v

theorem Writes.scans (h : c.Writes t) (hb : b.Blank) (hb' : b'.Blank) :
    commas.Scans [{}] false (b ++ (t ++ b')) [.leaf t] := by
  rcases h.entry with hentry | ⟨column, q, v, hq, hv, rfl⟩
  · exact hentry.scans_padded hb hb'
  · exact scans_decrement hq hv hb hb'

theorem Writes.read? (h : c.Writes t) : Assignment.read? t = some c.assignment := by
  rw [read?_eq_some_iff, h.trim]
  exact h.form

end Change

/-- An item of a list: a change with blanks around it, or a text that is one item by itself and has
none of the forms. -/
inductive WritesItem : Option Change → Text → Prop where
  | change {c : Change} {b t b' : Text} (hb : b.Blank) (h : c.Writes t) (hb' : b'.Blank) :
      WritesItem (some c) (b ++ (t ++ b'))
  | dropped {t : Text} {x : Token} (h : Token.read [[',']] t = .ok [x])
      (hx : x.isCombinator = false)
      (hn : ∀ a, ¬ Form a x.written.trim) : WritesItem none t

/-- Items with commas between them; no comma stands in front of an equals sign. -/
inductive WritesItems : List (Option Change) → Text → Prop where
  | last {i : Option Change} {t : Text} (h : WritesItem i t) : WritesItems [i] t
  | more {i : Option Change} {is : List (Option Change)} {t u : Text} (h : WritesItem i t)
      (hu : u.head? ≠ some '=') (hs : WritesItems is u) : WritesItems (i :: is) (t ++ ',' :: u)

variable {i : Option Change} {items : List (Option Change)} {t : Text}

theorem writesItem_of_formless {b b' : Text} (hb : b.Blank) (h : Operand.Entry t) (hb' : b'.Blank)
    (hread : Assignment.read? t = none) : WritesItem none (b ++ (t ++ b')) := by
  refine .dropped (Cutter.read_eq_ok_iff.2 (h.scans_padded hb hb')) rfl fun a ha => ?_
  rw [← read?_eq_some_iff, Token.written, hread] at ha
  cases ha

def writtenSlot : Token → Slot (Except Error Text) := Token.listSlot fun t => .ok t.written

theorem WritesItem.token (h : WritesItem i t) : ∃ x : Token, commas.Scans [{}] false t [x] ∧
    writtenSlot x = .item (fun _ => .ok x.written) ∧
    Assignment.read? x.written = i.map Change.assignment := by
  cases h with
  | change hb h hb' => exact ⟨_, h.scans hb hb', rfl, h.read?⟩
  | @dropped t x h hx hn =>
    refine ⟨x, Cutter.read_eq_ok_iff.1 h, ?_, ?_⟩
    · cases x with
      | combinator s => cases hx
      | leaf text => rfl
      | group lead tokens tail => rfl
    · cases hread : Assignment.read? x.written with
      | none => rfl
      | some a => exact absurd (read?_eq_some_iff.1 hread) (hn a)

theorem WritesItems.tokens (h : WritesItems items t) : ∃ (tokens : List Token) (texts : List Text),
    commas.Scans [{}] false t tokens ∧
    (∀ before, Slot.Alternates before (tokens.map writtenSlot) texts) ∧
    texts.filterMap Assignment.read? = (items.filterMap id).map Change.assignment := by
  induction h with
  | @last i t h =>
    obtain ⟨x, hx, hslot, hread⟩ := h.token
    refine ⟨[x], [x.written], hx, fun before => ?_, ?_⟩
    · rw [List.map_singleton, hslot]
      exact .last rfl
    · cases i <;> simp [hread]
  | @more i items t u h hu _ ih =>
    obtain ⟨x, hx, hslot, hread⟩ := h.token
    obtain ⟨tokens, texts, htokens, htexts, hreads⟩ := ih
    refine ⟨_, x.written :: texts, scans_comma hx htokens hu, fun before => ?_, ?_⟩
    · rw [List.singleton_append, List.map_cons, List.map_cons, hslot]
      exact .more rfl (htexts _)
    · cases i <;> simp [hread, hreads]

theorem WritesItems.texts (h : WritesItems items t) : ∃ texts, Token.commaList t = .ok texts ∧
    texts.filterMap Assignment.read? = (items.filterMap id).map Change.assignment := by
  obtain ⟨tokens, texts, htokens, htexts, hreads⟩ := h.tokens
  refine ⟨texts, ?_, hreads⟩
  have hread : Token.read [[',']] t = .ok tokens := Cutter.read_eq_ok_iff.2 htokens
  rw [Token.commaList, hread]
  exact Slot.items_eq_ok_iff.2 (.inr (htexts none))

/-- The SQL of the value that is bound under a name; an array is none. -/
inductive Bound (ctx : Context) (name : Text) : Text → Prop where
  | unbound (h : ctx.params.get? name = none) : Bound ctx name "NULL".toList
  | value {v : Value} {t : Text} (h : ctx.params.get? name = some v) (ha : ∀ vs, v ≠ .array vs)
      (ht : v.sql ctx.dialect = .ok t) : Bound ctx name t

def old (ctx : Context) (column : Text) : Option Char → Text
  | none => []
  | some op => ctx.quoteName column ++ [' ', op, ' ']

inductive Sets (ctx : Context) (column : Text) : Setting → Text → Prop where
  | increment : Sets ctx column .increment (ctx.quoteName column ++ " + 1".toList)
  | decrement : Sets ctx column .decrement (ctx.quoteName column ++ " - 1".toList)
  | bound {op : Option Char} {t : Text} (h : Bound ctx column t) :
      Sets ctx column (.bound op) (old ctx column op ++ t)
  | number {op : Option Char} {t : Text} : Sets ctx column (.number op t) (old ctx column op ++ t)
  | operand {op : Option Char} {o : Operand} {t : Text} (h : o.sql ctx = .ok t) :
      Sets ctx column (.operand op o) (old ctx column op ++ t)

inductive Change.Compiles (ctx : Context) (c : Change) : Text → Prop where
  | mk {value : Text} (h : Sets ctx c.column c.setting value) :
      Compiles ctx c (ctx.quoteName c.column ++ " = ".toList ++ value)

variable {ctx : Context} {target : Target} {c : Change} {table name sql : Text}

theorem parameter_sql_value {v : Value} (h : ctx.params.get? name = some v)
    (ha : ∀ vs, v ≠ .array vs) :
    (Operand.parameter name).sql ctx = v.sql ctx.dialect := by
  rw [Operand.sql, Operand.term, Term.bound, h]
  cases v with
  | array vs => exact absurd rfl (ha vs)
  | statement nested =>
    simp only [Term.ofValue]
    cases (Value.statement nested).sql ctx.dialect <;> rfl
  | null => rfl
  | bool b => rfl
  | int n => rfl
  | float x => rfl
  | text t => rfl
  | json j => rfl

theorem parameter_sql_iff : (Operand.parameter name).sql ctx = .ok t ↔ Bound ctx name t := by
  constructor
  · intro h
    cases hbound : ctx.params.get? name with
    | none =>
      rw [Operand.sql, Operand.term, Term.bound, hbound] at h
      cases h
      exact .unbound hbound
    | some v =>
      by_cases ha : ∃ vs, v = .array vs
      · obtain ⟨vs, rfl⟩ := ha
        rw [Operand.sql, Operand.term, Term.bound, hbound] at h
        cases h
      · have harray : ∀ vs, v ≠ .array vs := fun vs hv => ha ⟨vs, hv⟩
        rw [parameter_sql_value hbound harray] at h
        exact .value hbound harray h
  · intro h
    cases h with
    | unbound h =>
      rw [Operand.sql, Operand.term, Term.bound, h]
      rfl
    | value h ha ht =>
      rw [parameter_sql_value h ha]
      exact ht

theorem assignmentSql_eq_ok_iff {a : Assignment} : a.sql ctx = .ok t ↔
    ∃ v, a.value.sql ctx = .ok v ∧
      t = ctx.quoteName a.column ++ " = ".toList ++ (old ctx a.column a.op ++ v) := by
  obtain ⟨column, op, value⟩ := a
  constructor
  · intro h
    obtain ⟨v, hv, h⟩ := exists_of_bind_eq_ok h
    refine ⟨v, hv, ?_⟩
    cases op <;> cases h <;> simp [old]
  · rintro ⟨v, hv, rfl⟩
    dsimp only at hv
    cases op <;> simp [Assignment.sql, hv, old, bind, Except.bind, pure, Except.pure]

theorem sets_iff {value : Text} : Sets ctx c.column c.setting value ↔
    ∃ v, c.assignment.value.sql ctx = .ok v ∧ value = old ctx c.column c.assignment.op ++ v := by
  obtain ⟨column, setting⟩ := c
  constructor
  · intro h
    cases h with
    | increment => exact ⟨['1'], rfl, by simp [Change.assignment, old]⟩
    | decrement => exact ⟨['1'], rfl, by simp [Change.assignment, old]⟩
    | bound h => exact ⟨_, parameter_sql_iff.2 h, rfl⟩
    | number => exact ⟨_, rfl, rfl⟩
    | operand h => exact ⟨_, h, rfl⟩
  · rintro ⟨v, hv, rfl⟩
    cases setting with
    | increment =>
      cases hv
      have hold : old ctx column (some '+') ++ ['1'] = ctx.quoteName column ++ " + 1".toList := by
        simp [old]
      rw [Change.assignment, hold]
      exact .increment
    | decrement =>
      cases hv
      have hold : old ctx column (some '-') ++ ['1'] = ctx.quoteName column ++ " - 1".toList := by
        simp [old]
      rw [Change.assignment, hold]
      exact .decrement
    | bound op => exact .bound (parameter_sql_iff.1 hv)
    | number op t =>
      cases hv
      exact .number
    | operand op o => exact .operand hv

theorem compiles_iff : c.assignment.sql ctx = .ok t ↔ c.Compiles ctx t := by
  rw [assignmentSql_eq_ok_iff]
  have hcolumn : c.assignment.column = c.column := by
    obtain ⟨column, setting⟩ := c
    cases setting <;> rfl
  rw [hcolumn]
  constructor
  · rintro ⟨v, hv, rfl⟩
    exact .mk (sets_iff.2 ⟨v, hv, rfl⟩)
  · rintro ⟨h⟩
    obtain ⟨v, hv, rfl⟩ := sets_iff.1 h
    exact ⟨v, hv, rfl⟩

theorem sql_eq_ok_iff {s : Update} (htable : s.table ≠ []) : s.sql = .ok sql ↔
    ∃ entries condition, List.Forall₂ (fun a t => a.sql s.context = .ok t) s.assignments entries ∧
      Statement.conditionSql s.context s.condition = .ok condition ∧
      sql = "UPDATE ".toList ++ s.context.dialect.quoteName
        (s.context.target.tablePrefix ++ s.table) ++
        " SET ".toList ++ Text.joined ", ".toList entries ++
          Statement.clause "WHERE".toList condition := by
  have hsql : s.sql = (do
      let sets ← s.assignments.mapM fun a => a.sql s.context
      let table ← s.context.target.tableName s.table
      let condition ← Statement.conditionSql s.context s.condition
      return "UPDATE ".toList ++ table ++ " SET ".toList ++ Text.joined ", ".toList sets ++
        Statement.clause "WHERE".toList condition) := rfl
  rw [hsql, Target.tableName, if_neg htable]
  constructor
  · intro h
    obtain ⟨entries, hentries, h⟩ := exists_of_bind_eq_ok h
    obtain ⟨_, ⟨⟩, h⟩ := exists_of_bind_eq_ok h
    obtain ⟨condition, hcondition, h⟩ := exists_of_bind_eq_ok h
    cases h
    exact ⟨entries, condition, mapM_eq_ok_iff.1 hentries, hcondition, rfl⟩
  · rintro ⟨entries, condition, hentries, hcondition, rfl⟩
    rw [mapM_eq_ok_iff.2 hentries]
    show Except.bind (Statement.conditionSql s.context s.condition) _ = _
    rw [hcondition]
    rfl

/-- Each column is set to what was written for it, in order, and what is no assignment adds
nothing. -/
theorem sql_of_changes (htable : table ≠ []) (h : WritesItems items t)
    (hne : items.filterMap id ≠ []) :
    ∃ s, start target table t = .ok s ∧ ∀ params sql,
      ((Statement.update s).withParams params).sql = .ok sql ↔
        ∃ entries, List.Forall₂ (Change.Compiles ⟨target, params⟩) (items.filterMap id) entries ∧
          sql = "UPDATE ".toList ++ target.dialect.quoteName (target.tablePrefix ++ table) ++
            " SET ".toList ++
            Text.joined ", ".toList entries := by
  obtain ⟨texts, htexts, hreads⟩ := h.texts
  have hstart : start target table t = .ok {
      context := { target }
      table
      assignments := (items.filterMap id).map Change.assignment } := by
    have hempty : ((items.filterMap id).map Change.assignment).isEmpty = false := by
      rw [List.isEmpty_map]
      simpa using hne
    simp only [start, Target.tableName, if_neg htable, htexts, hreads, bind, Except.bind, hempty]
    rfl
  refine ⟨_, hstart, fun params sql => ?_⟩
  rw [Statement.withParams, Statement.withContext, Statement.sql, sql_eq_ok_iff htable]
  simp only [List.forall₂_map_left_iff, compiles_iff]
  constructor
  · rintro ⟨entries, condition, hentries, ⟨⟩, rfl⟩
    exact ⟨entries, hentries, by simp [Statement.clause]; rfl⟩
  · rintro ⟨entries, hentries, rfl⟩
    exact ⟨entries, none, hentries, rfl, by simp [Statement.clause]; rfl⟩

theorem sql_of_changes_mixed : ∃ s, start {} ['t'] "`a,b`--, a!!,`c` +=-2.5,d=?".toList = .ok s ∧
    ((Statement.update s).withParams (Bindings.empty.insert ['d'] (.text ['x']))).sql =
      .ok "UPDATE `t` SET `a,b` = `a,b` - 1, `c` = `c` + -2.5, `d` = 'x'".toList := by
  have space : Text.Blank [' '] := Text.forall_mem_of_all (by decide)
  have step : WritesItem (some ⟨"a,b".toList, .decrement⟩)
      ([] ++ (Text.quoted backtick "a,b".toList ++ ([] ++ ['-', '-']) ++ [])) :=
    .change Text.blank_nil (.decrement (.quoted (by decide)) Text.blank_nil) Text.blank_nil
  have dropped : WritesItem none ([' '] ++ ("a!!".toList ++ [])) := by
    have hentry : Operand.Entry "a!!".toList :=
      entry_chars (by decide) (Text.forall_mem_of_all (by decide))
    exact writesItem_of_formless space hentry Text.blank_nil rfl
  have number : WritesItem (some ⟨['c'], .number (some '+') "-2.5".toList⟩)
      ([] ++
        (Text.quoted backtick ['c'] ++ ([' '] ++ (['+', '='] ++ ([] ++ "-2.5".toList))) ++ [])) :=
    .change Text.blank_nil (.assigned (.quoted (by simp)) space (.arithmetic rfl) Text.blank_nil
      (.number (isFiniteNumber_iff.1 (by decide +kernel)))) Text.blank_nil
  have value : WritesItem (some ⟨['d'], .bound none⟩)
      ([] ++ (['d'] ++ ([] ++ (['='] ++ ([] ++ ['?']))) ++ [])) :=
    .change Text.blank_nil
      (.assigned (.bare ⟨'d', [], rfl, by decide, by simp⟩) Text.blank_nil .plain
      Text.blank_nil .bound) Text.blank_nil
  obtain ⟨s, hs, hsql⟩ := @sql_of_changes _ _ {} ['t'] (by simp)
    (.more step (by decide) (.more dropped (by decide) (.more number (by decide) (.last value))))
      (by simp)
  have bound : Bound ⟨{}, Bindings.empty.insert ['d'] (.text ['x'])⟩ ['d'] "'x'".toList :=
    .value (Bindings.get?_insert _ _ _ _) (by simp) rfl
  exact ⟨s, hs, (hsql _ _).2
    ⟨_, .cons (.mk .decrement) (.cons (.mk .number) (.cons (.mk (.bound bound)) .nil)), rfl⟩⟩

/-- A comma in front of an equals sign does not separate, and without a table there is nothing to
update. -/
theorem not_start_of_operator :
    (∃ c t u, WritesItem (some c) t ∧ WritesItem none u ∧
      ∀ s, start {} ['t'] (t ++ ',' :: u) ≠ .ok s) ∧
    ∃ c t, WritesItem (some c) t ∧ ∀ s, start {} [] t ≠ .ok s := by
  have column : WritesItem (some ⟨['a'], .bound none⟩) ([] ++ (Text.quoted backtick ['a'] ++ [])) :=
    .change Text.blank_nil (.bare (.quoted (by simp))) Text.blank_nil
  have formless : WritesItem none ([] ++ ("=b".toList ++ [])) := by
    have hentry : Operand.Entry "=b".toList :=
      entry_chars (by decide) (Text.forall_mem_of_all (by decide))
    exact writesItem_of_formless Text.blank_nil hentry Text.blank_nil rfl
  constructor
  · refine ⟨_, _, _, column, formless, fun s hs => ?_⟩
    have hrefused : (start {} ['t'] "`a`,=b".toList).isOk = false := by decide +kernel
    have hok : (start {} ['t'] "`a`,=b".toList).isOk = true := congrArg Except.isOk hs
    rw [hrefused] at hok
    cases hok
  · refine ⟨_, _, column, fun s hs => ?_⟩
    cases hs

end QueryShorthand.Update
