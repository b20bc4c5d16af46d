import QueryShorthand.Proofs.Condition.Formed
import QueryShorthand.Proofs.Condition.Pattern
import QueryShorthand.Proofs.Condition.Refusal
import QueryShorthand.Proofs.Condition.Writing
import QueryShorthand.Proofs.Operand.Formed

/-! Numbers that are not finite in conditions. Where one is written as SQL the condition is refused;
JSON and lists take it as null, and patterns by its name. -/
namespace QueryShorthand

variable {ctx : Context}

namespace Term

variable {l r t : Term} {op : Operator} {values : List Value}

def nulled : Term → Term
  | value v => if v.isNonFinite then null else value v.nulled
  | array values => array (Value.nulledAll values)
  | t => t

theorem nulled_value {v : Value} (h : v.isNonFinite = false) :
    (value v).nulled = value v.nulled := by
  rw [nulled, h]
  rfl

theorem nulled_array (values : List Value) :
    (array values).nulled = array (Value.nulledAll values) := rfl

theorem sql_nulled (h : t.isNonFinite = false) : t.nulled.sql ctx.nulled = t.sql ctx := by
  cases t with
  | value v =>
    rw [nulled_value h]
    exact Value.sql_nulled ctx.dialect h
  | array values => exact Value.sql_nulled ctx.dialect (v := .array values) rfl
  | _ => rfl

theorem jsonSql_nulled (t : Term) : t.nulled.jsonSql ctx.nulled = t.jsonSql ctx := by
  cases t with
  | value v =>
    cases h : v.isNonFinite with
    | false =>
      rw [nulled_value h, jsonSql, jsonSql, Value.toJson_nulled]
      rfl
    | true =>
      obtain ⟨x, rfl, -⟩ := Value.sql_of_isNonFinite ctx.dialect h
      have hx : ¬ x.isFinite = true := by simpa [Value.isNonFinite] using h
      rw [nulled, if_pos h, jsonSql, jsonSql, Value.toJson, Value.jsonOfFloat, dif_neg hx]
      rfl
  | array values => exact Value.sql_nulled ctx.dialect (v := .array values) rfl
  | _ => rfl

theorem isNull_nulled (h : t.isNonFinite = false) : t.nulled.isNull = t.isNull := by
  cases t with
  | value v => rw [nulled_value h]; rfl
  | _ => rfl

theorem checked_nulled (t : Term) : t.nulled.checked = t.checked.map nulled := by
  cases t with
  | value v =>
    show (value v).nulled.checked = .ok (value v).nulled
    rw [nulled]
    split <;> rfl
  | _ => rfl

theorem valueList_nulled (h : values.any Value.isNonFinite = false) :
    valueList ctx.nulled (Value.nulledAll values) = valueList ctx values := by
  induction values with
  | nil => rfl
  | cons v values ih =>
    rw [List.any_cons, Bool.or_eq_false_iff] at h
    rw [Value.nulledAll, valueList, valueList, ih h.2]
    exact congrArg (· >>= _) (Value.sql_nulled ctx.dialect h.1)

theorem among_nulled (negated : Bool) (sql : Text) (h : values.any Value.isNonFinite = false) :
    among ctx.nulled negated sql (Value.nulledAll values) = among ctx negated sql values := by
  rw [among, among, Value.isEmpty_nulledAll, valueList_nulled h]

section

variable (negated : Bool)

theorem equality_nulled (hl : l.isNonFinite = false) (hr : r.isNonFinite = false)
    (hi : l.isNull = false → r.listsNonFinite = false) :
    equality ctx.nulled negated l.nulled r.nulled = equality ctx negated l r := by
  have ordered {l r : Term} (hl : l.isNonFinite = false) (hr : r.isNonFinite = false)
      (hi : r.listsNonFinite = false) (hn : (l.isNull && !r.isNull) = false) :
      equality ctx.nulled negated l.nulled r.nulled = equality ctx negated l r := by
    have hsql : r.nulled.sql ctx.nulled = r.sql ctx := sql_nulled hr
    simp only [equality, isNull_nulled hl, isNull_nulled hr, hn, Bool.false_eq_true, if_false,
      sql_nulled hl]
    cases r with
    | value v =>
      rw [nulled_value hr] at hsql ⊢
      simp only [hsql]
    | array values => simp only [nulled_array, among_nulled negated _ hi]
    | _ => rfl
  cases hn : l.isNull && !r.isNull with
  | false =>
    cases hnull : l.isNull with
    | false => exact ordered hl hr (hi hnull) hn
    | true =>
      cases r with
      | null => exact ordered hl hr rfl hn
      | _ =>
        rw [hnull] at hn
        cases hn
  | true =>
    have hn' : (l.nulled.isNull && !r.nulled.isNull) = true := by
      rwa [isNull_nulled hl, isNull_nulled hr]
    rw [equality_of_null hn, equality_of_null hn']
    refine ordered hr hl ?_ (not_isNull_of_isNull hn)
    cases l with
    | array values => cases hn
    | _ => rfl

theorem isColumn_nulled (t : Term) : t.nulled.isColumn = t.isColumn := by
  cases t with
  | value v =>
    rw [nulled]
    split <;> rfl
  | _ => rfl

theorem membership_document (h : l.isColumn = false) :
    membership ctx negated l r = documentMembership ctx negated l r := by
  cases l with
  | column sql => cases h
  | _ => rfl

theorem membership_nulled (hr : l.isColumn = true → r.isNonFinite = false)
    (hi : l.isColumn = true → r.listsNonFinite = false) :
    membership ctx.nulled negated l.nulled r.nulled = membership ctx negated l r := by
  cases hl : l.isColumn with
  | false =>
    rw [membership_document negated hl, membership_document negated ((isColumn_nulled l).trans hl),
      documentMembership, jsonSql_nulled, jsonSql_nulled]
    rfl
  | true =>
    cases l with
    | column sql =>
      cases r with
      | value v =>
        have hsql : (value v).nulled.sql ctx.nulled = (value v).sql ctx := sql_nulled (hr rfl)
        rw [nulled_value (hr rfl)] at hsql ⊢
        exact congrArg (· >>= _) hsql
      | array values => exact among_nulled negated sql (hi rfl)
      | _ => rfl
    | _ => cases hl

theorem pattern_nulled (hl : l.isNonFinite = false) (hr : r.isNonFinite = false) :
    pattern ctx.nulled op negated l.nulled r.nulled = pattern ctx op negated l r := by
  simp only [pattern, sql_nulled hl]
  cases r with
  | value v =>
    rw [nulled_value hr]
    simp only [Value.patternText_nulled hr]
    rfl
  | _ => rfl

theorem between_nulled (written : Text) (hl : l.isNonFinite = false)
    (hi : r.listsNonFinite = false) :
    between ctx.nulled negated l.nulled r.nulled written = between ctx negated l r written := by
  cases r with
  | array values =>
    match values, hi with
    | [low, high], hi =>
      simp only [listsNonFinite, List.any_cons, List.any_nil, Bool.or_false, Bool.or_eq_false_iff]
        at hi
      have hlow : low.nulled.sql ctx.nulled.dialect = low.sql ctx.dialect := Value.sql_nulled _ hi.1
      have hhigh : high.nulled.sql ctx.nulled.dialect = high.sql ctx.dialect :=
        Value.sql_nulled _ hi.2
      simp only [nulled_array, Value.nulledAll, between, sql_nulled hl, hlow, hhigh]
    | [], _ => rfl
    | [_], _ => rfl
    | _ :: _ :: _ :: _, _ =>
      simp only [nulled_array, Value.nulledAll, between, List.length_cons, Value.length_nulledAll]
  | value v =>
    rw [nulled]
    split <;> rfl
  | _ => rfl

theorem pathText_nulled (h : r.isNonFinite = false) :
    r.nulled.pathText ctx.nulled = r.pathText ctx := by
  cases r with
  | value v =>
    have hv := Value.patternText_nulled h
    rw [nulled_value h]
    cases v with
    | text p => rfl
    | null | bool | int | json | statement => rfl
    | float x =>
      rw [isNonFinite, Value.isNonFinite, Bool.not_eq_false'] at h
      rw [Value.nulled, if_pos h]
      rfl
    | array items =>
      rw [Value.nulled] at hv ⊢
      simp only [pathText, hv]
  | array values =>
    have hsql : (array values).nulled.sql ctx.nulled = (array values).sql ctx := sql_nulled rfl
    rw [nulled] at hsql ⊢
    simp only [pathText, hsql]
  | _ => rfl

theorem jsonKeyExists_nulled (hl : l.isNonFinite = false) (hr : r.isNonFinite = false) :
    jsonKeyExists ctx.nulled negated l.nulled r.nulled = jsonKeyExists ctx negated l r := by
  have hsql : r.nulled.sql ctx.nulled = r.sql ctx := sql_nulled hr
  simp only [jsonKeyExists, sql_nulled hl]
  cases r with
  | value v =>
    rw [nulled_value hr] at hsql ⊢
    simp only [hsql]
    rfl
  | array values =>
    have hjson := Value.toJson_nulled (.array values)
    rw [Value.nulled] at hjson
    simp only [nulled_array, hjson]
    rfl
  | _ => rfl

/-- Nothing but the pattern of a number would differ. -/
theorem compare_nulled (written : Text) (h : ¬ Refused op l r)
    (hp : op ∈ [.contains, .startsWith, .endsWith] → r.isNonFinite = false) :
    compare ctx.nulled op negated l.nulled r.nulled written =
      compare ctx op negated l r written := by
  have hl (hop : writesLeft op = true) : l.isNonFinite = false :=
    Bool.eq_false_iff.2 fun hl => h (.left hop hl)
  have hr (hop : writesRight op l = true) : r.isNonFinite = false :=
    Bool.eq_false_iff.2 fun hr => h (.right hop hr)
  have hi (hop : writesItems op l = true) : r.listsNonFinite = false :=
    Bool.eq_false_iff.2 fun hi => h (.item hop hi)
  cases op with
  | equal =>
    exact equality_nulled negated (hl rfl) (hr rfl) fun hn => hi (by rw [writesItems, hn]; rfl)
  | notEqual =>
    exact equality_nulled (!negated) (hl rfl) (hr rfl) fun hn => hi (by rw [writesItems, hn]; rfl)
  | membership => exact membership_nulled negated hr hi
  | contains | startsWith | endsWith => exact pattern_nulled negated (hl rfl) (hp (by decide))
  | regexp =>
    simp only [compare, regexp, sql_nulled (hl rfl), sql_nulled (hr rfl)]
    rfl
  | jsonKeyExists => exact jsonKeyExists_nulled negated (hl rfl) (hr rfl)
  | jsonPathExists =>
    simp only [compare, jsonPathExists, sql_nulled (hl rfl), pathText_nulled (hr rfl)]
    rfl
  | jsonContains =>
    simp only [compare, jsonContains, sql_nulled (hl rfl), jsonSql_nulled]
    rfl
  | jsonSearch =>
    simp only [compare, jsonSearch, sql_nulled (hl rfl), sql_nulled (hr rfl)]
    rfl
  | between => exact between_nulled negated written (hl rfl) (hi rfl)
  | notBetween => exact between_nulled (!negated) written (hl rfl) (hi rfl)
  | greater | less | greaterOrEqual | lessOrEqual =>
    simp only [compare, ordering, sql_nulled (hl rfl), sql_nulled (hr rfl)]
    rfl

end

theorem ofValue_nulled (v : Value) : ofValue ctx.nulled v.nulled = (ofValue ctx v).map nulled := by
  cases v with
  | float x =>
    show ofValue ctx.nulled (Value.float x).nulled = .ok (value (.float x)).nulled
    cases hx : x.isFinite with
    | true =>
      simp only [Value.nulled, nulled, Value.isNonFinite, hx, Bool.not_true, Bool.false_eq_true,
        if_true, if_false, ofValue]
    | false =>
      simp only [Value.nulled, nulled, Value.isNonFinite, hx, Bool.not_false, Bool.false_eq_true,
        if_true, if_false, ofValue]
  | statement s =>
    show ((Value.statement s).sql ctx.dialect).map statement =
      (((Value.statement s).sql ctx.dialect).map statement).map nulled
    cases (Value.statement s).sql ctx.dialect <;> rfl
  | _ => rfl

theorem bound_nulled (name : Text) : bound ctx.nulled name = (bound ctx name).map nulled := by
  rw [bound, bound, ctx.get?_nulled]
  cases ctx.params.get? name with
  | none => rfl
  | some v => exact ofValue_nulled v

end Term

namespace Operand

variable {o l r : Operand} {op : Operator}

/-- The comparison takes a number that is not finite as the text of a pattern. -/
def ReadsPattern (ctx : Context) (l : Operand) (op : Operator) (r : Operand) : Prop :=
  op ∈ [.contains, .startsWith, .endsWith] ∧ ∃ t, r.term ctx l = .ok t ∧ t.isNonFinite = true

mutual

theorem term_nulled : ∀ {o : Operand}, o.Formed → ¬ o.Passes ctx → ∀ other,
    o.term ctx.nulled other = (o.term ctx other).map Term.nulled
  | column c, _, _, _ => rfl
  | call name args, hf, hp, _ => by
    rw [Formed] at hf
    rw [term, term, argumentsSql_nulled hf.2 (fun a hm h => hp (.inside hm h))
      fun a hm t ht => Bool.eq_false_iff.2 fun h => hp (.argument hm ht h)]
    cases argumentsSql ctx args <;> rfl
  | parameter name, _, _, _ => Term.bound_nulled name
  | literal _, _, _, _ => rfl
  | array values, hf, _, _ => by
    rw [Formed] at hf
    obtain ⟨items, -, rfl⟩ := hf
    have hitems := Value.nulledAll_of_not_holds (Value.anyHoldsNonFinite_ofJsonAll items)
    show Except.ok (Term.array _) = .ok (Term.array (Value.nulledAll _))
    rw [hitems]
  | malformedArray _, _, _, _ => rfl
  | null, _, _, _ => rfl
  | auto, _, _, other => by
    rw [term, term]
    cases other.column? with
    | some c => exact Term.bound_nulled c.name
    | none => rfl

theorem argumentsSql_nulled :
    ∀ {args : List Operand}, FormedAll args → (∀ a ∈ args, ¬ a.Passes ctx) →
    (∀ a ∈ args, ∀ t, a.term ctx null = .ok t → t.isNonFinite = false) →
    argumentsSql ctx.nulled args = argumentsSql ctx args
  | [], _, _, _ => rfl
  | a :: args, hf, hp, hn => by
    rw [FormedAll] at hf
    rw [argumentsSql, argumentsSql, term_nulled hf.1 (hp a List.mem_cons_self) null,
      argumentsSql_nulled hf.2 (fun b hm => hp b (List.mem_cons_of_mem _ hm))
        fun b hm => hn b (List.mem_cons_of_mem _ hm)]
    cases ha : a.term ctx null with
    | error e => rfl
    | ok t =>
      have hsql : t.nulled.sql ctx.nulled = t.sql ctx :=
        Term.sql_nulled (hn a List.mem_cons_self t ha)
      exact congrArg (· >>= fun sql => argumentsSql ctx args >>= fun rest => pure (sql :: rest))
        hsql

end

theorem flag_nulled (hf : o.Formed) (h : ¬ o.RefusesFlag ctx) (negated : Bool) :
    o.flag ctx.nulled negated = o.flag ctx negated := by
  rw [RefusesFlag, not_or] at h
  rw [flag, flag, term_nulled hf h.1]
  cases ht : o.term ctx null with
  | error e => rfl
  | ok t =>
    have hn : t.isNonFinite = false := Bool.eq_false_iff.2 fun hn => h.2 ⟨t, ht, hn⟩
    have hsql : t.nulled.sql ctx.nulled = t.sql ctx := Term.sql_nulled hn
    rw [show Except.map Term.nulled (.ok t : Except Error Term) = .ok t.nulled from rfl]
    cases t with
    | value v =>
      rw [Term.nulled_value hn] at hsql ⊢
      exact congrArg (· >>= fun t => pure (Term.negatedIf ctx negated t)) hsql
    | _ => rfl

theorem compare_nulled (hl : l.Formed) (hr : r.Formed) (h : ¬ RefusesPair ctx l op r)
    (hp : ¬ ReadsPattern ctx l op r) (negated : Bool) :
    compare ctx.nulled op negated l r = compare ctx op negated l r := by
  simp only [RefusesPair, not_or] at h
  rw [compare, compare, term_nulled hl h.1, term_nulled hr h.2.1]
  cases hlt : l.term ctx r with
  | error e => rfl
  | ok lt =>
    cases hrt : r.term ctx l with
    | error e => rfl
    | ok rt =>
      show (do
        let l ← lt.nulled.checked
        let r' ← rt.nulled.checked
        Term.compare ctx.nulled op negated l r' r.written) = (do
        let l ← lt.checked
        let r' ← rt.checked
        Term.compare ctx op negated l r' r.written)
      rw [Term.checked_nulled, Term.checked_nulled]
      cases hlc : lt.checked with
      | error e => rfl
      | ok a =>
        cases hrc : rt.checked with
        | error e => rfl
        | ok b =>
          obtain rfl := Term.checked_eq_ok hlc
          obtain rfl := Term.checked_eq_ok hrc
          refine Term.compare_nulled negated r.written (fun hr => h.2.2 ⟨_, _, hlt, hrt, hr⟩)
            fun hop => ?_
          exact Bool.eq_false_iff.2 fun hn => hp ⟨hop, _, hrt, hn⟩

end Operand

namespace Expr

def HoldsPattern (ctx : Context) (e : Expr) : Prop :=
  e.Meets (fun _ => False) (Operand.ReadsPattern ctx)

def Read (e : Expr) : Prop := e.Formed Operand.Formed fun l r => l.Formed ∧ r.Formed

mutual

theorem sql_nulled_both : ∀ {e : Expr}, e.Read → ¬ e.Refused ctx → ¬ e.HoldsPattern ctx →
    e.sql ctx.nulled = e.sql ctx ∧ (not e).sql ctx.nulled = (not e).sql ctx
  | all items, hf, h, hp => by
    have hall : (all items).sql ctx.nulled = (all items).sql ctx := by
      rw [sql, sql, sqlAll_nulled hf.2.2 (fun e hm he => h (.all hm he)) fun e hm he =>
        hp (.all hm he)]
    exact ⟨hall, congrArg (Except.map ctx.dialect.negate) hall⟩
  | any items, hf, h, hp => by
    have hany : (any items).sql ctx.nulled = (any items).sql ctx := by
      rw [sql, sql, sqlAll_nulled hf.2.2 (fun e hm he => h (.any hm he)) fun e hm he =>
        hp (.any hm he)]
    exact ⟨hany, congrArg (Except.map ctx.dialect.negate) hany⟩
  | not e, hf, h, hp => by
    have hnot := (sql_nulled_both hf.2 (fun he => h (.not he)) fun he => hp (.not he)).2
    exact ⟨hnot, congrArg (Except.map ctx.dialect.negate) hnot⟩
  | group e, hf, h, hp => by
    have he := (sql_nulled_both (e := e) hf (fun he => h (.group he)) fun he => hp (.group he)).1
    rw [sql, sql, sql, sql, he]
    exact ⟨rfl, rfl⟩
  | flag o, hf, h, _ => by
    have hflag := Operand.flag_nulled (o := o) hf fun ho => h (.flag ho)
    exact ⟨hflag false, hflag true⟩
  | compare l op r, hf, h, hp => by
    have hpair := Operand.compare_nulled (l := l) hf.1 hf.2 (fun hr => h (.compare hr)) fun hr => hp
      (.compare hr)
    exact ⟨hpair false, hpair true⟩

theorem sqlAll_nulled :
    ∀ {es : List Expr}, FormedAll Operand.Formed (fun l r => l.Formed ∧ r.Formed) es →
    (∀ e ∈ es, ¬ e.Refused ctx) → (∀ e ∈ es, ¬ e.HoldsPattern ctx) →
    sqlAll ctx.nulled es = sqlAll ctx es
  | [], _, _, _ => rfl
  | e :: es, hf, h, hp => by
    rw [sqlAll, sqlAll, (sql_nulled_both hf.1 (h e List.mem_cons_self) (hp e List.mem_cons_self)).1,
      sqlAll_nulled hf.2 (fun e' hm => h e' (List.mem_cons_of_mem _ hm))
        fun e' hm => hp e' (List.mem_cons_of_mem _ hm)]

end

end Expr

namespace Condition

variable {source : Text} {c : Condition} {e : Expr}

theorem expr_of_read (h : read source = .ok c) (he : c.expr = some e) : e.Read := by
  refine Expr.formed_of_read (fun _ _ ho => Operand.formed_of_read ho) ?_ h he
  intro clip tl tr l op r l' op' r' hl hr hc
  have hl := Operand.formed_of_read hl
  have hr := Operand.formed_of_read hr
  unfold Expr.comparison at hc
  split at hc
  · cases hc
  · split at hc <;> cases hc
    · exact ⟨hr, hl⟩
    · exact ⟨hl, hr⟩

theorem fails_of_refused (he : c.expr = some e) (h : e.Refused ctx) : Fails (c.sql ctx) := by
  rw [sql, he]
  exact h.fails_both.1.map

theorem sql_nulled_of_read (hc : read source = .ok c) (he : c.expr = some e) (h : ¬ e.Refused ctx)
    (hp : ¬ e.HoldsPattern ctx) : c.sql ctx = c.sql ctx.nulled := by
  simp only [sql, he]
  rw [(Expr.sql_nulled_both (expr_of_read hc he) h hp).1]

open Operand in
/-- A number that is not finite is an error where it is written as SQL. Elsewhere it is null, in
lists at any depth and in JSON; and in a pattern it is the text that names it. -/
theorem sql_of_nonFinite (ctx : Context) :
    (∀ (d : Dialect) (v : Value), v.isNonFinite = true →
      ∃ x : Binary64, v = .float x ∧ v.sql d = .error (.nonFinite x.text)) ∧
    (∀ (d : Dialect) (v : Value), v.isNonFinite = false → v.sql d = v.nulled.sql d) ∧
    (∀ source c e, read source = .ok c → c.expr = some e → e.Refused ctx →
      ∃ error, c.sql ctx = .error error) ∧
    (∀ source c e, read source = .ok c → c.expr = some e → ¬ e.Refused ctx → ¬ e.HoldsPattern ctx →
      c.sql ctx = c.sql ctx.nulled) ∧
    ∀ (l r : Operand) (op : Operator) (negated : Bool) (x : Binary64),
      op ∈ [.contains, .startsWith, .endsWith] → r.term ctx l = .ok (.value (.float x)) →
      Operand.compare ctx op negated l r = ((l.term ctx r).bind (Term.sql ctx)).map fun y =>
        (Sql.Predicate.like y
          (ctx.quoteText (Term.patternOf op x.text) ++ ctx.dialect.escapeClause)).sql
          ctx.dialect negated := by
  refine ⟨fun d v h => Value.sql_of_isNonFinite d h, fun d v h => (Value.sql_nulled d h).symm, ?_,
    ?_, ?_⟩
  · intro source c e _ he h
    exact fails_of_refused he h
  · intro source c e hc he h hp
    exact sql_nulled_of_read hc he h hp
  · intro l r op negated x hop hr
    exact compare_of_text negated hop hr rfl

/-- One bound number that is not finite under three operators. -/
theorem sql_of_nonFinite_nan : ∃ (ctx : Context) (l r : Operand) (equal contains : Condition),
    ctx.params.get? ['x'] = some (.float .nan) ∧
    read "a=:x".toList = .ok equal ∧ (∃ error, equal.sql ctx = .error error) ∧
    read "a~=:x".toList = .ok contains ∧ contains.sql ctx = contains.sql ctx.nulled ∧
    contains.sql ctx.nulled = .ok (some "JSON_CONTAINS(\x60a\x60, 'null') = 1".toList) ∧
    r.term ctx l = .ok (.value (.float .nan)) ∧
    Operand.compare ctx .startsWith false l r = .ok "\x60a\x60 LIKE 'NaN%'".toList := by
  let ctx : Context := ⟨{}, Bindings.empty.insert ['x'] (.float .nan)⟩
  let l := Operand.column { name := ['a'] }
  let r := Operand.parameter ['x']
  have reads (op : Operator) : read (['a'] ++ (op.symbol ++ [':', 'x'])) =
      .ok ⟨['a'] ++ (op.symbol ++ [':', 'x']), some (.compare l op r)⟩ := by
    have hl : l.Writes ['a'] :=
      .column (.plain (.bare ⟨'a', [], rfl, by decide, by simp⟩) (by decide)) (by decide)
    have hr : r.Writes [':', 'x'] := .parameter (by decide) (by decide)
    have atom :
        Expr.WritesAtom (.compare l op r) (['a'] ++ ([] ++ (op.symbol ++ ([] ++ [':', 'x'])))) :=
      .compare hl Text.blank_nil Text.blank_nil hr rfl (by decide)
    have clip : Expr.WritesClip (Expr.negated 0 (.compare l op r)) ([] ++ (_ ++ [])) :=
      .mk rfl atom Text.blank_nil
    have hread := read_of_writes (.term (.clip clip))
    simp only [List.nil_append, List.append_nil] at hread
    exact hread
  have hr : r.term ctx l = .ok (.value (.float .nan)) := rfl
  have hcolumn : ¬ (Operand.column { name := ['a'] }).Passes ctx := by rintro ⟨⟩
  have hparameter : ¬ (Operand.parameter ['x']).Passes ctx := by rintro ⟨⟩
  obtain ⟨-, -, hrefused, hnulled, hpattern⟩ := sql_of_nonFinite ctx
  refine ⟨ctx, l, r, _, _, rfl, reads .equal, ?_, reads .jsonContains, ?_, by decide +kernel, hr,
    ?_⟩
  · refine hrefused _ _ _ (reads .equal) rfl (.compare (.inr (.inr ⟨_, _, rfl, hr, ?_⟩)))
    exact .right rfl rfl
  · refine hnulled _ _ _ (reads .jsonContains) rfl ?_ ?_
    · rintro (_ | ⟨hl | hr | ⟨lt, rt, hl, -, h⟩⟩)
      · exact hcolumn hl
      · exact hparameter hr
      · cases hl
        cases h with
        | left _ h => cases h
        | right hop => cases hop
        | item hop => cases hop
    · rintro (_ | ⟨hop, -⟩)
      exact absurd hop (by decide)
  · rw [hpattern l r .startsWith false .nan (by decide) hr]
    decide +kernel

/-- A list with such a number in it becomes SQL, and so does the number itself in a pattern. -/
theorem sql_of_nonFinite_written :
    (Value.array [.float .nan]).holdsNonFinite = true ∧
    (Value.array [.float .nan]).sql .mysql = .ok "'[null]'".toList ∧
    (do (← read "a*=:x".toList).sql ⟨{}, Bindings.empty.insert ['x'] (.float .nan)⟩) =
      .ok (some "\x60a\x60 LIKE '%NaN%'".toList) ∧
    (do (← read "a~=:x".toList).sql ⟨{}, Bindings.empty.insert ['x'] (.float .nan)⟩) =
      .ok (some "JSON_CONTAINS(\x60a\x60, 'null') = 1".toList) := by
  refine ⟨rfl, ?_, ?_, ?_⟩
  · decide +kernel
  · decide +kernel
  · decide +kernel

end Condition

end QueryShorthand
