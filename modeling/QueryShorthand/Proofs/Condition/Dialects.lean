import QueryShorthand.Condition.Reader
import QueryShorthand.Proofs.Condition.Comparison

/-! One condition for two databases, of which one may lack the JSON functions. -/
namespace QueryShorthand

/-- The outcomes of one computation for a database and for one with fewer functions. Results of both
are related; only for an operator that is `lacking` does the second fail alone. -/
inductive Lags {α β : Type} (lacking : Operator → Prop) (d : Dialect) (R : α → β → Prop) :
    Except Error α → Except Error β → Prop where
  | ok {a : α} {b : β} (h : R a b) : Lags lacking d R (.ok a) (.ok b)
  | errors {e f : Error} : Lags lacking d R (.error e) (.error f)
  | unsupported {a : α} {op : Operator} (h : lacking op) :
      Lags lacking d R (.ok a) (.error (.unsupported op.symbol d))

namespace Lags

variable {α β γ δ : Type} {lacking : Operator → Prop} {d : Dialect} {R : α → β → Prop}
  {S : γ → δ → Prop} {x : Except Error α} {y : Except Error β}

theorem bind (h : Lags lacking d R x y) {f : α → Except Error γ} {g : β → Except Error δ}
    (hk : ∀ a b, x = .ok a → R a b → Lags lacking d S (f a) (g b)) :
    Lags lacking d S (x >>= f) (y >>= g) := by
  cases h with
  | ok h => exact hk _ _ rfl h
  | errors => exact .errors
  | @unsupported a op h =>
    show Lags lacking d S (f a) _
    cases f a with
    | ok c => exact .unsupported h
    | error e => exact .errors

theorem map (h : Lags lacking d R x y) {f : α → γ} {g : β → δ} (hk : ∀ a b, R a b → S (f a) (g b)) :
    Lags lacking d S (x.map f) (y.map g) := by
  cases h with
  | ok h => exact .ok (hk _ _ h)
  | errors => exact .errors
  | unsupported h => exact .unsupported h

theorem same (x : Except Error α) : Lags lacking d Eq x x := by
  cases x with
  | error e => exact .errors
  | ok a => exact .ok rfl

theorem throws (x : Except Error γ) (y : Except Error δ) (f : γ → Error) (g : δ → Error) :
    Lags lacking d R (x >>= fun c => throw (f c)) (y >>= fun c => throw (g c)) := by
  cases x <;> cases y <;> exact .errors

theorem isOk_of_isOk (h : Lags lacking d R x y) (hy : y.isOk = true) : x.isOk = true := by
  cases h with
  | ok => rfl
  | errors => cases hy
  | unsupported => rfl

theorem isOk_eq (h : Lags lacking d R x y) (hl : ∀ op, ¬ lacking op) : x.isOk = y.isOk := by
  cases h with
  | ok => rfl
  | errors => rfl
  | unsupported h => exact absurd h (hl _)

theorem exists_of_error (h : Lags lacking d R x y) (hx : x.isOk = true) {e : Error}
    (hy : y = .error e) :
    ∃ op : Operator, lacking op ∧ e = .unsupported op.symbol d := by
  cases h with
  | ok => cases hy
  | errors => cases hx
  | @unsupported _ op h =>
    cases hy
    exact ⟨op, h, rfl⟩

end Lags

def Context.on (ctx : Context) (d : Dialect) : Context := { ctx with target.dialect := d }

def Dialect.HasMore (d d' : Dialect) : Prop :=
  d.hasJsonFunctions = true ∧ d'.hasJsonFunctions = false

/-- Texts of SQL for two databases, of which only that both exist matters. -/
abbrev Exist (_ _ : Text) : Prop := True

variable {ctx : Context} {d d' : Dialect} {lacking : Operator → Prop}

namespace Value

theorem lags_sql (v : Value) : Lags lacking d' Exist (v.sql d) (v.sql d') := by
  cases v with
  | float x =>
    rw [sql, sql]
    split
    · exact .ok trivial
    · exact .errors
  | array items =>
    rw [sql, sql]
    cases (array items).toJson with
    | error e => exact .errors
    | ok j => exact .ok trivial
  | statement s =>
    rw [sql, sql]
    cases s.sql with
    | error e => exact .errors
    | ok t => exact .ok trivial
  | _ => exact .ok trivial

end Value

namespace Term

/-- Terms that differ at most in SQL. -/
inductive Kin : Term → Term → Prop where
  | column (s t : Text) : Kin (.column s) (.column t)
  | value (v : Value) : Kin (.value v) (.value v)
  | array (values : List Value) : Kin (.array values) (.array values)
  | null : Kin .null .null
  | statement (s t : Text) : Kin (.statement s) (.statement t)
  | malformed (t : Text) : Kin (.malformed t) (.malformed t)

inductive JsonOnly : Operator → Term → Prop where
  | keyExists (l : Term) : JsonOnly .jsonKeyExists l
  | contains (l : Term) : JsonOnly .jsonContains l
  | search (l : Term) : JsonOnly .jsonSearch l
  | membership {l : Term} (h : ∀ sql, l ≠ .column sql) : JsonOnly .membership l

variable {l l' r r' : Term}

theorem lags_ofValue (v : Value) :
    Lags lacking d' Kin (ofValue (ctx.on d) v) (ofValue (ctx.on d') v) := by
  cases v with
  | null => exact .ok .null
  | array values => exact .ok (.array values)
  | statement s => exact (Value.lags_sql (.statement s)).map fun s t _ => .statement s t
  | _ => exact .ok (.value _)

theorem lags_bound (name : Text) :
    Lags lacking d' Kin (bound (ctx.on d) name) (bound (ctx.on d') name) := by
  have hparams (d : Dialect) : (ctx.on d).params = ctx.params := rfl
  rw [bound, bound, hparams, hparams]
  cases ctx.params.get? name with
  | none => exact .ok .null
  | some v => exact lags_ofValue v

theorem Kin.sql (h : Kin l l') : Lags lacking d' Exist (l.sql (ctx.on d)) (l'.sql (ctx.on d')) := by
  cases h with
  | value v => exact v.lags_sql
  | array values => exact (Value.array values).lags_sql
  | malformed t => exact .errors
  | _ => exact .ok trivial

theorem Kin.jsonSql (h : Kin l l') :
    Lags lacking d' Exist (l.jsonSql (ctx.on d)) (l'.jsonSql (ctx.on d')) := by
  cases h with
  | value v => exact (Lags.same v.toJson).map fun _ _ _ => trivial
  | null => exact .ok trivial
  | array values => exact (Value.array values).lags_sql
  | malformed t => exact .errors
  | _ => exact .ok trivial

theorem Kin.checked (h : Kin l l') : Lags lacking d' Kin l.checked l'.checked := by
  cases h with
  | malformed t => exact .errors
  | column s t => exact .ok (.column s t)
  | value v => exact .ok (.value v)
  | array values => exact .ok (.array values)
  | null => exact .ok .null
  | statement s t => exact .ok (.statement s t)

theorem Kin.isNull_eq (h : Kin l l') : l.isNull = l'.isNull := by
  cases h <;> rfl

theorem lags_valueList (values : List Value) :
    Lags lacking d' (fun _ _ => True) (valueList (ctx.on d) values)
      (valueList (ctx.on d') values) := by
  induction values with
  | nil => exact .ok trivial
  | cons v values ih => exact v.lags_sql.bind fun _ _ _ _ => ih.bind fun _ _ _ _ => .ok trivial

theorem lags_among (negated : Bool) (s t : Text) (values : List Value) :
    Lags lacking d' Exist (among (ctx.on d) negated s values)
      (among (ctx.on d') negated t values) := by
  unfold among
  split
  · exact .ok trivial
  · exact (lags_valueList values).bind fun _ _ _ _ => .ok trivial

theorem lags_equality (negated : Bool) (hl : Kin l l') (hr : Kin r r') :
    Lags lacking d' Exist (equality (ctx.on d) negated l r)
      (equality (ctx.on d') negated l' r') := by
  have ordered {l l' r r' : Term} (hl : Kin l l') (hr : Kin r r')
      (hn : (l.isNull && !r.isNull) = false) :
      Lags lacking d' Exist (equality (ctx.on d) negated l r)
        (equality (ctx.on d') negated l' r') := by
    simp only [equality, ← hl.isNull_eq, ← hr.isNull_eq, hn, Bool.false_eq_true, if_false]
    refine hl.sql.bind fun s t _ _ => ?_
    cases hr with
    | null => exact .ok trivial
    | array values => exact lags_among negated s t values
    | value v => exact v.lags_sql.bind fun _ _ _ _ => .ok trivial
    | malformed t => exact .errors
    | _ => exact .ok trivial
  cases hn : l.isNull && !r.isNull with
  | false => exact ordered hl hr hn
  | true =>
    have hn' : (l'.isNull && !r'.isNull) = true := by rwa [← hl.isNull_eq, ← hr.isNull_eq]
    rw [equality_of_null hn, equality_of_null hn']
    exact ordered hr hl (not_isNull_of_isNull hn)

theorem lags_pattern (op : Operator) (negated : Bool) (hl : Kin l l') (hr : Kin r r') :
    Lags lacking d' Exist (pattern (ctx.on d) op negated l r)
      (pattern (ctx.on d') op negated l' r') := by
  unfold pattern
  refine hl.sql.bind fun s t _ _ => ?_
  cases hr with
  | value v => exact (Lags.same v.patternText).bind fun _ _ _ _ => .ok trivial
  | array values => exact .errors
  | malformed t => exact .errors
  | _ => exact .ok trivial

theorem lags_regexp (negated : Bool) (hl : Kin l l') (hr : Kin r r') :
    Lags lacking d' Exist (regexp (ctx.on d) negated l r) (regexp (ctx.on d') negated l' r') :=
  hl.sql.bind fun _ _ _ _ => hr.sql.bind fun _ _ _ _ => .ok trivial

theorem lags_ordering (op : Operator) (negated : Bool) (hl : Kin l l') (hr : Kin r r') :
    Lags lacking d' Exist (ordering (ctx.on d) op negated l r)
      (ordering (ctx.on d') op negated l' r') :=
  hl.sql.bind fun _ _ _ _ => hr.sql.bind fun _ _ _ _ => .ok trivial

theorem lags_between (negated : Bool) (hl : Kin l l') (hr : Kin r r') (written : Text) :
    Lags lacking d' Exist (between (ctx.on d) negated l r written)
      (between (ctx.on d') negated l' r' written) := by
  unfold between
  cases hr with
  | array values =>
    match values with
    | [low, high] =>
      refine hl.sql.bind fun _ _ _ _ => ?_
      exact low.lags_sql.bind fun _ _ _ _ => high.lags_sql.bind fun _ _ _ _ => .ok trivial
    | [] => exact .errors
    | [_] => exact .errors
    | _ :: _ :: _ :: _ => exact .errors
  | _ => exact .errors

theorem lags_pathText (hr : Kin r r') :
    Lags lacking d' Exist (r.pathText (ctx.on d)) (r'.pathText (ctx.on d')) := by
  cases hr with
  | value v =>
    cases v with
    | text p =>
      simp only [pathText]
      split
      · exact .ok trivial
      · exact .errors
    | _ => exact .throws _ _ _ _
  | _ => exact .throws _ _ _ _

theorem lags_jsonPathExists (negated : Bool) (hl : Kin l l') (hr : Kin r r') :
    Lags lacking d' Exist (jsonPathExists (ctx.on d) negated l r)
      (jsonPathExists (ctx.on d') negated l' r') :=
  (lags_pathText hr).bind fun _ _ _ _ => hl.sql.bind fun _ _ _ _ => .ok trivial

section

variable (hd : d'.hasJsonFunctions = true → d.hasJsonFunctions = true) {op : Operator}

include hd

theorem lags_needsJson (hop : d.HasMore d' → lacking op) :
    Lags lacking d' (fun _ _ => True) (needsJson (ctx.on d) op) (needsJson (ctx.on d') op) := by
  show Lags lacking d' _ (if d.hasJsonFunctions = true then _ else _)
    (if d'.hasJsonFunctions = true then _ else _)
  cases h : d.hasJsonFunctions <;> cases h' : d'.hasJsonFunctions
  · exact .errors
  · exact absurd (hd h') (by simp [h])
  · exact .unsupported (hop ⟨h, h'⟩)
  · exact .ok trivial

theorem lags_jsonContains (negated : Bool) (hl : Kin l l') (hr : Kin r r')
    (hop : d.HasMore d' → lacking .jsonContains) :
    Lags lacking d' Exist (jsonContains (ctx.on d) negated l r)
      (jsonContains (ctx.on d') negated l' r') := by
  refine (lags_needsJson hd hop).bind fun _ _ _ _ => ?_
  exact hl.sql.bind fun _ _ _ _ => hr.jsonSql.bind fun _ _ _ _ => .ok trivial

theorem lags_jsonSearch (negated : Bool) (hl : Kin l l') (hr : Kin r r')
    (hop : d.HasMore d' → lacking .jsonSearch) :
    Lags lacking d' Exist (jsonSearch (ctx.on d) negated l r)
      (jsonSearch (ctx.on d') negated l' r') := by
  refine (lags_needsJson hd hop).bind fun _ _ _ _ => ?_
  exact hl.sql.bind fun _ _ _ _ => hr.sql.bind fun _ _ _ _ => .ok trivial

theorem lags_jsonKeyExists (negated : Bool) (hl : Kin l l') (hr : Kin r r')
    (hop : d.HasMore d' → lacking .jsonKeyExists) :
    Lags lacking d' Exist (jsonKeyExists (ctx.on d) negated l r)
      (jsonKeyExists (ctx.on d') negated l' r') := by
  refine (lags_needsJson hd hop).bind fun _ _ _ _ => ?_
  refine hl.sql.bind fun _ _ _ _ => ?_
  cases hr with
  | array values => exact (Lags.same (Value.array values).toJson).bind fun _ _ _ _ => .ok trivial
  | value v => exact v.lags_sql.bind fun _ _ _ _ => .ok trivial
  | malformed t => exact .errors
  | _ => exact .ok trivial

theorem lags_documentMembership (negated : Bool) (hl : Kin l l') (hr : Kin r r')
    (hop : d.HasMore d' → lacking .membership) :
    Lags lacking d' Exist (documentMembership (ctx.on d) negated l r)
      (documentMembership (ctx.on d') negated l' r') :=
  (lags_needsJson hd hop).bind fun _ _ _ _ =>
    hl.jsonSql.bind fun _ _ _ _ => hr.jsonSql.bind fun _ _ _ _ => .ok trivial

theorem lags_membership (negated : Bool) (hl : Kin l l') (hr : Kin r r')
    (hop : d.HasMore d' → (∀ sql, l ≠ .column sql) → lacking .membership) :
    Lags lacking d' Exist (membership (ctx.on d) negated l r)
      (membership (ctx.on d') negated l' r') := by
  cases hl with
  | column s t =>
    cases hr with
    | array values => exact lags_among negated s t values
    | value v => exact v.lags_sql.bind fun _ _ _ _ => .ok trivial
    | malformed u => exact .errors
    | _ => exact .ok trivial
  | value v => exact lags_documentMembership hd negated (.value v) hr fun h => hop h (by simp)
  | array values =>
    exact lags_documentMembership hd negated (.array values) hr fun h => hop h (by simp)
  | null => exact lags_documentMembership hd negated .null hr fun h => hop h (by simp)
  | statement s t =>
    exact lags_documentMembership hd negated (.statement s t) hr fun h => hop h (by simp)
  | malformed t =>
    exact lags_documentMembership hd negated (.malformed t) hr fun h => hop h (by simp)

theorem lags_compare (op : Operator) (negated : Bool) (hl : Kin l l') (hr : Kin r r')
    (written : Text) (hop : d.HasMore d' → JsonOnly op l → lacking op) :
    Lags lacking d' Exist (compare (ctx.on d) op negated l r written)
      (compare (ctx.on d') op negated l' r' written) := by
  cases op with
  | equal => exact lags_equality negated hl hr
  | notEqual => exact lags_equality (!negated) hl hr
  | membership =>
    exact lags_membership hd negated hl hr fun h hcolumn => hop h (.membership hcolumn)
  | contains => exact lags_pattern .contains negated hl hr
  | startsWith => exact lags_pattern .startsWith negated hl hr
  | endsWith => exact lags_pattern .endsWith negated hl hr
  | regexp => exact lags_regexp negated hl hr
  | jsonKeyExists => exact lags_jsonKeyExists hd negated hl hr fun h => hop h (.keyExists l)
  | jsonPathExists => exact lags_jsonPathExists negated hl hr
  | jsonContains => exact lags_jsonContains hd negated hl hr fun h => hop h (.contains l)
  | jsonSearch => exact lags_jsonSearch hd negated hl hr fun h => hop h (.search l)
  | between => exact lags_between negated hl hr written
  | notBetween => exact lags_between (!negated) hl hr written
  | greater => exact lags_ordering .greater negated hl hr
  | less => exact lags_ordering .less negated hl hr
  | greaterOrEqual => exact lags_ordering .greaterOrEqual negated hl hr
  | lessOrEqual => exact lags_ordering .lessOrEqual negated hl hr

end

end Term

namespace Operand

mutual

theorem lags_term : ∀ (o other : Operand),
    Lags lacking d' Term.Kin (o.term (ctx.on d) other) (o.term (ctx.on d') other)
  | column c, _ => .ok (.column _ _)
  | call name args, _ => (lags_argumentsSql args).bind fun _ _ _ _ => .ok (.column _ _)
  | parameter name, _ => Term.lags_bound name
  | literal t, _ => .ok (.value (.text t))
  | array values, _ => .ok (.array values)
  | malformedArray t, _ => .ok (.malformed t)
  | null, _ => .ok .null
  | auto, other => by
    rw [term, term]
    cases other.column? with
    | some c => exact Term.lags_bound c.name
    | none => exact .errors

theorem lags_argumentsSql : ∀ (args : List Operand), Lags lacking d' (fun _ _ => True)
    (argumentsSql (ctx.on d) args) (argumentsSql (ctx.on d') args)
  | [] => .ok trivial
  | a :: args => (lags_term a null).bind fun _ _ _ h => h.sql.bind fun _ _ _ _ =>
    (lags_argumentsSql args).bind fun _ _ _ _ => .ok trivial

end

theorem lags_flag (negated : Bool) (o : Operand) :
    Lags lacking d' Exist (o.flag (ctx.on d) negated) (o.flag (ctx.on d') negated) := by
  refine (lags_term o null).bind fun t u _ h => ?_
  cases h with
  | null => exact .ok trivial
  | array values => exact .errors
  | value v => exact v.lags_sql.bind fun _ _ _ _ => .ok trivial
  | malformed t => exact .errors
  | _ => exact .ok trivial

theorem lags_compare (hd : d'.hasJsonFunctions = true → d.hasJsonFunctions = true) (op : Operator)
    (negated : Bool) (l r : Operand)
    (hop : d.HasMore d' → (∃ t, l.term (ctx.on d) r = .ok t ∧ Term.JsonOnly op t) → lacking op) :
    Lags lacking d' Exist (compare (ctx.on d) op negated l r)
      (compare (ctx.on d') op negated l r) := by
  refine (lags_term l r).bind fun t t' ht hl => ?_
  refine (lags_term r l).bind fun u u' _ hr => ?_
  refine hl.checked.bind fun a a' ha hl => ?_
  refine hr.checked.bind fun b b' _ hr => ?_
  rw [← Term.checked_eq_ok ha] at ht
  exact Term.lags_compare hd op negated hl hr r.written fun h hjson => hop h ⟨a, ht, hjson⟩

end Operand

namespace Expr

inductive Holds (P : Operand → Operator → Operand → Prop) : Expr → Prop where
  | compare {l r : Operand} {op : Operator} (h : P l op r) : Holds P (compare l op r)
  | not {e : Expr} (h : Holds P e) : Holds P (not e)
  | group {e : Expr} (h : Holds P e) : Holds P (group e)
  | all {items : List Expr} {e : Expr} (hm : e ∈ items) (h : Holds P e) : Holds P (all items)
  | any {items : List Expr} {e : Expr} (hm : e ∈ items) (h : Holds P e) : Holds P (any items)

/-- The comparison is made by `symbol`, and only JSON functions can make it. -/
def JsonOnly (ctx : Context) (symbol : Operator) (l : Operand) (op : Operator) (r : Operand) :
    Prop :=
  op = symbol ∧ ∃ t, l.term ctx r = .ok t ∧ Term.JsonOnly op t

theorem lags_compare (hd : d'.hasJsonFunctions = true → d.hasJsonFunctions = true) (negated : Bool)
    {l r : Operand} {op : Operator}
    (hop : ∀ symbol, d.HasMore d' → JsonOnly (ctx.on d) symbol l op r → lacking symbol) :
    Lags lacking d' Exist (Operand.compare (ctx.on d) op negated l r)
      (Operand.compare (ctx.on d') op negated l r) :=
  Operand.lags_compare hd op negated l r fun h hjson => hop op h ⟨rfl, hjson⟩

mutual

theorem lags_sql (hd : d'.hasJsonFunctions = true → d.hasJsonFunctions = true) : ∀ (e : Expr),
    (∀ symbol, d.HasMore d' → e.Holds (JsonOnly (ctx.on d) symbol) → lacking symbol) →
    Lags lacking d' Exist (e.sql (ctx.on d)) (e.sql (ctx.on d'))
  | all items, hop => (lags_sqlAll hd items fun symbol h _ hm he => hop symbol h (.all hm he)).map
      fun _ _ _ => trivial
  | any items, hop => (lags_sqlAll hd items fun symbol h _ hm he => hop symbol h (.any hm he)).map
      fun _ _ _ => trivial
  | group e, hop =>
    (lags_sql hd e fun symbol h he => hop symbol h (.group he)).map fun _ _ _ => trivial
  | flag o, _ => Operand.lags_flag false o
  | compare _ _ _, hop => lags_compare hd false fun symbol h hjson => hop symbol h (.compare hjson)
  | not (flag o), _ => Operand.lags_flag true o
  | not (compare _ _ _), hop =>
    lags_compare hd true fun symbol h hjson => hop symbol h (.not (.compare hjson))
  | not (group e), hop =>
    (lags_sql hd e fun symbol h he => hop symbol h (.not (.group he))).map fun _ _ _ => trivial
  | not (all items), hop =>
    (lags_sql hd (all items) fun symbol h he => hop symbol h (.not he)).map fun _ _ _ => trivial
  | not (any items), hop =>
    (lags_sql hd (any items) fun symbol h he => hop symbol h (.not he)).map fun _ _ _ => trivial
  | not (not e), hop =>
    (lags_sql hd (not e) fun symbol h he => hop symbol h (.not he)).map fun _ _ _ => trivial

theorem lags_sqlAll (hd : d'.hasJsonFunctions = true → d.hasJsonFunctions = true) :
    ∀ (es : List Expr),
    (∀ symbol, d.HasMore d' → ∀ e ∈ es, e.Holds (JsonOnly (ctx.on d) symbol) → lacking symbol) →
    Lags lacking d' (fun _ _ => True) (sqlAll (ctx.on d) es) (sqlAll (ctx.on d') es)
  | [], _ => .ok trivial
  | e :: es, hop =>
    (lags_sql hd e fun symbol h => hop symbol h e List.mem_cons_self).bind fun _ _ _ _ =>
    (lags_sqlAll hd es fun symbol h e hm => hop symbol h e (List.mem_cons_of_mem _ hm)).bind
      fun _ _ _ _ => .ok trivial

end

end Expr

namespace Condition

def Holds (P : Operand → Operator → Operand → Prop) (c : Condition) : Prop :=
  ∃ e, c.expr = some e ∧ e.Holds P

theorem lags_sql (d d' : Dialect) (hd : d'.hasJsonFunctions = true → d.hasJsonFunctions = true)
    (c : Condition) :
    Lags (fun symbol => d.HasMore d' ∧ c.Holds (Expr.JsonOnly (ctx.on d) symbol)) d'
      (fun _ _ => True)
      (c.sql (ctx.on d)) (c.sql (ctx.on d')) := by
  obtain ⟨source, expr⟩ := c
  cases expr with
  | none => exact .ok trivial
  | some e =>
    exact (Expr.lags_sql hd e fun symbol h he => ⟨h, e, rfl, he⟩).map fun _ _ _ => trivial

/-- Between databases without the JSON functions there is no difference, and what compiles without
them compiles with them. Where they are lacking the error names an operator of the condition that
needs them. -/
theorem sql_across_dialects (c : Condition) (ctx : Context) :
    (c.sql (ctx.on .postgres)).isOk = (c.sql (ctx.on .sqlite)).isOk ∧
      (∀ d, (c.sql (ctx.on d)).isOk = true → (c.sql (ctx.on .mysql)).isOk = true) ∧
      ∀ d e, (c.sql (ctx.on .mysql)).isOk = true → c.sql (ctx.on d) = .error e →
        ∃ symbol : Operator, e = .unsupported symbol.symbol d ∧
          c.Holds (Expr.JsonOnly (ctx.on .mysql) symbol) := by
  refine ⟨?_, fun d => ?_, fun d e hmysql herror => ?_⟩
  · refine (lags_sql .postgres .sqlite id c).isOk_eq ?_
    rintro _ ⟨⟨hpostgres, -⟩, -⟩
    cases hpostgres
  · exact (lags_sql .mysql d (fun _ => rfl) c).isOk_of_isOk
  · obtain ⟨symbol, ⟨-, hholds⟩, rfl⟩ :=
      (lags_sql .mysql d (fun _ => rfl) c).exists_of_error hmysql herror
    exact ⟨symbol, rfl, hholds⟩

/-- A column is looked for in a list everywhere, a text in a document only with the functions for
it. -/
theorem sql_across_dialects_sqlite : ∃ (listed both : Condition) (symbol : Operator),
    read "a|=[1]".toList = .ok listed ∧ read "a|=[1],'x'|=b".toList = .ok both ∧
    (listed.sql (Context.on {} .sqlite)).isOk = true ∧
    (listed.sql (Context.on {} .mysql)).isOk = true ∧
    (both.sql (Context.on {} .mysql)).isOk = true ∧
    both.sql (Context.on {} .sqlite) = .error (.unsupported "|=".toList .sqlite) ∧
    .unsupported "|=".toList .sqlite = Error.unsupported symbol.symbol .sqlite ∧
    both.Holds (Expr.JsonOnly (Context.on {} .mysql) symbol) := by
  have hlisted : (do (← read "a|=[1]".toList).sql (Context.on {} .sqlite)).isOk = true := by
    decide +kernel
  have hboth : (do (← read "a|=[1],'x'|=b".toList).sql (Context.on {} .mysql)).isOk = true := by
    decide +kernel
  have herror : (do (← read "a|=[1],'x'|=b".toList).sql (Context.on {} .sqlite)) =
      .error (.unsupported "|=".toList .sqlite) := by
    decide +kernel
  cases hread : read "a|=[1]".toList with
  | error e =>
    rw [hread] at hlisted
    cases hlisted
  | ok listed =>
    cases hread' : read "a|=[1],'x'|=b".toList with
    | error e =>
      rw [hread'] at hboth
      cases hboth
    | ok both =>
      rw [hread] at hlisted
      rw [hread'] at hboth herror
      obtain ⟨-, hmore, -⟩ := sql_across_dialects listed {}
      obtain ⟨-, -, hlacking⟩ := sql_across_dialects both {}
      obtain ⟨symbol, hsymbol, hholds⟩ := hlacking _ _ hboth herror
      exact ⟨listed, both, symbol, rfl, rfl, hlisted, hmore _ hlisted, hboth, herror, hsymbol,
        hholds⟩

end Condition

end QueryShorthand
