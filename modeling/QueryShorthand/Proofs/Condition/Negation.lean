import QueryShorthand.Proofs.Condition.Comparison
import QueryShorthand.Proofs.Sql.Predicate

/-! Comparisons and their negations: what each operator asks for, and that negated it is the
complement of what it is plain. -/
namespace QueryShorthand

open Sql (Predicate)

namespace Term

def patternOf (op : Operator) (t : Text) : Text :=
  (if (wildcards op).1 then ['%'] else []) ++ escapePattern t ++
    if (wildcards op).2 then ['%'] else []

/-- The pattern for what some SQL gives, which is not known yet. -/
def patternParts (op : Operator) (sql : Text) : List Text :=
  (if (wildcards op).1 then ["'%'".toList] else []) ++ sql ::
    if (wildcards op).2 then ["'%'".toList] else []

/-- The predicate that a comparison of two terms asks for, or asks to be false if `denied`: the
operator table. -/
inductive Asks (ctx : Context) :
    Operator → Term → Term → Predicate → (denied : Bool) → Prop where
  | null {op : Operator} {l : Term} {x : Text}
      (hop : op ∈ [.equal, .contains, .startsWith, .endsWith]) (hx : l.sql ctx = .ok x) :
      Asks ctx op l null (.isNull x) false
  | nullLeft {r : Term} {y : Text} (hy : r.sql ctx = .ok y) :
      Asks ctx .equal null r (.isNull y) false
  | noItems {l : Term} {x : Text} (hl : l.isNull = false) (hx : l.sql ctx = .ok x) :
      Asks ctx .equal l (array []) (.isNull x) false
  | items {l : Term} {x : Text} {values : List Value} {items : List Text} (hl : l.isNull = false)
      (hx : l.sql ctx = .ok x) (hne : values ≠ [])
      (hitems : List.Forall₂ (fun v t => v.sql ctx.dialect = .ok t) values items) :
      Asks ctx .equal l (array values) (.among x items) false
  | equal {l r : Term} {x y : Text} (hl : l.isNull = false) (hr : r.isNull = false)
      (hone : ∀ values, r ≠ array values) (hx : l.sql ctx = .ok x) (hy : r.sql ctx = .ok y) :
      Asks ctx .equal l r (.equal x y) false
  | notEqual {l r : Term} {p : Predicate} {denied : Bool} (h : Asks ctx .equal l r p !denied) :
      Asks ctx .notEqual l r p denied
  | member {x : Text} {r : Term} {p : Predicate} (hr : r = null ∨ ∃ values, r = array values)
      (h : Asks ctx .equal (column x) r p false) : Asks ctx .membership (column x) r p false
  | rows {x query : Text} :
      Asks ctx .membership (column x) (statement query) (.amongRows x query) false
  | item {x y : Text} {r : Term} (hr : (∃ t, r = column t) ∨ ∃ v, r = value v)
      (hy : r.sql ctx = .ok y) : Asks ctx .membership (column x) r (.among x [y]) false
  | document {l r : Term} {x y : Text} (hl : ∀ t, l ≠ column t) (hx : l.jsonSql ctx = .ok x)
      (hy : r.jsonSql ctx = .ok y) : Asks ctx .membership l r
        (.holds ("JSON_CONTAINS(".toList ++ x ++ ", ".toList ++ y ++ ", '$') > 0".toList)) false
  | likeText {op : Operator} {l : Term} {v : Value} {x t : Text}
      (hop : op ∈ [.contains, .startsWith, .endsWith]) (hx : l.sql ctx = .ok x)
      (ht : v.patternText = .ok t) : Asks ctx op l (value v)
        (.like x (ctx.quoteText (patternOf op t) ++ ctx.dialect.escapeClause)) false
  | like {op : Operator} {l r : Term} {x y : Text}
      (hop : op ∈ [.contains, .startsWith, .endsWith])
      (hr : (∃ t, r = column t) ∨ ∃ query, r = statement query) (hx : l.sql ctx = .ok x)
      (hy : r.sql ctx = .ok y) :
      Asks ctx op l r (.like x (ctx.dialect.concat (patternParts op y))) false
  | regexp {l r : Term} {x y : Text} (hx : l.sql ctx = .ok x) (hy : r.sql ctx = .ok y) :
      Asks ctx .regexp l r (.regexp x y) false
  | keys {l : Term} {x : Text} {values : List Value} {j : Json} (hx : l.sql ctx = .ok x)
      (hj : (Value.array values).toJson = .ok j) : Asks ctx .jsonKeyExists l (array values)
        (.holds ("JSON_OVERLAPS(".toList ++ ("JSON_KEYS(".toList ++ x ++ [')']) ++ ", ".toList ++
          ctx.quoteText j.written ++ [')'])) false
  | key {l r : Term} {x y : Text} (hr : ∀ values, r ≠ array values) (hx : l.sql ctx = .ok x)
      (hy : r.sql ctx = .ok y) : Asks ctx .jsonKeyExists l r
        (.isNull ("JSON_SEARCH(".toList ++ ("JSON_KEYS(".toList ++ x ++ [')']) ++
          ", 'one', ".toList ++ y ++ [')'])) true
  | path {l : Term} {x path : Text} (hpath : path.head? = some '$') (hx : l.sql ctx = .ok x) :
      Asks ctx .jsonPathExists l (value (.text path)) (.isNull (ctx.dialect.extract x path)) true
  | contains {l r : Term} {x y : Text} (hx : l.sql ctx = .ok x) (hy : r.jsonSql ctx = .ok y) :
      Asks ctx .jsonContains l r
        (.holds ("JSON_CONTAINS(".toList ++ x ++ ", ".toList ++ y ++ ") = 1".toList)) false
  | search {l r : Term} {x y : Text} (hx : l.sql ctx = .ok x) (hy : r.sql ctx = .ok y) :
      Asks ctx .jsonSearch l r
        (.isNull ("JSON_SEARCH(".toList ++ x ++ ", 'one', ".toList ++ y ++ [')'])) true
  | between {l : Term} {x a b : Text} {low high : Value} (hx : l.sql ctx = .ok x)
      (ha : low.sql ctx.dialect = .ok a) (hb : high.sql ctx.dialect = .ok b) :
      Asks ctx .between l (array [low, high]) (.between x a b) false
  | notBetween {l r : Term} {p : Predicate} {denied : Bool} (h : Asks ctx .between l r p !denied) :
      Asks ctx .notBetween l r p denied
  | ordering {op : Operator} {l r : Term} {x y : Text}
      (hop : op ∈ [.greater, .less, .greaterOrEqual, .lessOrEqual]) (hx : l.sql ctx = .ok x)
      (hy : r.sql ctx = .ok y) :
      Asks ctx op l r (.holds (x ++ ' ' :: (op.symbol ++ ' ' :: y))) false

end Term

/-- Two outcomes are the same error, or a predicate that was asked for and its complement. -/
inductive Complementary (d : Dialect) (asked : Predicate → (denied : Bool) → Prop) :
    Compiled → Compiled → Prop where
  | errors (e : Error) : Complementary d asked (.error e) (.error e)
  | pair {p : Predicate} {denied : Bool} (h : asked p denied) :
      Complementary d asked (.ok (p.sql d denied)) (.ok (p.sql d !denied))

namespace Complementary

variable {d : Dialect} {asked : Predicate → Bool → Prop}

theorem bind {α : Type} {f g : α → Compiled} (x : Except Error α)
    (h : ∀ a, x = .ok a → Complementary d asked (f a) (g a)) :
    Complementary d asked (x >>= f) (x >>= g) := by
  cases x with
  | error e => exact .errors e
  | ok a => exact h a rfl

theorem map {f g : Text → Text} (x : Compiled)
    (h : ∀ a, x = .ok a → Complementary d asked (.ok (f a)) (.ok (g a))) :
    Complementary d asked (x.map f) (x.map g) := by
  cases x with
  | error e => exact .errors e
  | ok a => exact h a rfl

theorem of_eq {p : Predicate} {denied : Bool} {t u : Text} (h : asked p denied)
    (ht : t = p.sql d denied) (hu : u = p.sql d !denied) :
    Complementary d asked (.ok t) (.ok u) := by
  rw [ht, hu]
  exact .pair h

theorem mono {asked' : Predicate → Bool → Prop} {a b : Compiled} (h : Complementary d asked a b)
    (hasked : ∀ p denied, asked p denied → asked' p denied) : Complementary d asked' a b := by
  cases h with
  | errors e => exact .errors e
  | pair h => exact .pair (hasked _ _ h)

theorem symm {a b : Compiled} (h : Complementary d asked a b) :
    Complementary d (fun p denied => asked p !denied) b a := by
  cases h with
  | errors e => exact .errors e
  | @pair p denied h =>
    have hasked : asked p (!!denied) := by rwa [Bool.not_not]
    exact .of_eq hasked rfl (by rw [Bool.not_not])

end Complementary

namespace Term

variable {ctx : Context} {asked : Predicate → Bool → Prop} {l r : Term} {op : Operator}

theorem nullCheck_eq (d : Dialect) (negated : Bool) (x : Text) :
    nullCheck negated x = (Predicate.isNull x).sql d negated := by
  cases negated <;> rfl

theorem negatedIf_eq (negated : Bool) (e : Text) :
    negatedIf ctx negated e = (Predicate.holds e).sql ctx.dialect negated := by
  cases negated with
  | false => rfl
  | true =>
    change ctx.dialect.negate e = Predicate.denial ctx.dialect e
    cases ctx.dialect <;> rfl

theorem matchOperator_eq (d : Dialect) (negated : Bool) (x p : Text) :
    x ++ ' ' :: (d.matchOperator negated ++ ' ' :: p) = (Predicate.regexp x p).sql d negated := by
  have hwords : ' ' :: (d.matchOperator negated ++ [' ']) = Predicate.matchWords d negated := by
    cases d <;> cases negated <;> rfl
  simp [Predicate.sql, ← hwords]

theorem among_eq (d : Dialect) (negated : Bool) (x : Text) (items : List Text) :
    x ++ ' ' :: (inWord negated ++ '(' :: (Text.joined ", ".toList items ++ [')'])) =
      (Predicate.among x items).sql d negated := by
  cases negated <;> simp [Predicate.sql, inWord]

theorem amongOne_eq (d : Dialect) (negated : Bool) (x y : Text) :
    x ++ ' ' :: (inWord negated ++ '(' :: (y ++ [')'])) =
      (Predicate.among x [y]).sql d negated := by
  have hone : Text.joined ", ".toList [y] = y := List.append_nil y
  rw [← among_eq, hone]

theorem amongRows_eq (d : Dialect) (negated : Bool) (x query : Text) :
    x ++ ' ' :: (inWord negated ++ query) = (Predicate.amongRows x query).sql d negated := by
  cases negated <;> simp [Predicate.sql, inWord]

theorem complementary_nullCheck {d : Dialect} {x : Text} (denied : Bool)
    (h : asked (.isNull x) denied) :
    Complementary d asked (.ok (nullCheck denied x)) (.ok (nullCheck (!denied) x)) :=
  .of_eq h (nullCheck_eq d _ x) (nullCheck_eq d _ x)

theorem complementary_holds {e : Text} (h : asked (.holds e) false) :
    Complementary ctx.dialect asked (.ok (negatedIf ctx false e)) (.ok (negatedIf ctx true e)) :=
  .of_eq h (negatedIf_eq _ e) (negatedIf_eq _ e)

theorem complementary_among {x : Text} {values : List Value}
    (hnone : values = [] → asked (.isNull x) false)
    (hitems : ∀ items, values ≠ [] →
      List.Forall₂ (fun v t => v.sql ctx.dialect = .ok t) values items →
      asked (.among x items) false) :
    Complementary ctx.dialect asked (among ctx false x values) (among ctx true x values) := by
  unfold among
  cases values with
  | nil => exact complementary_nullCheck false (hnone rfl)
  | cons v vs =>
    refine .bind _ fun items h => ?_
    have hasked := hitems items (List.cons_ne_nil v vs) (valueList_eq_ok_iff.1 h)
    exact .of_eq hasked (among_eq _ false x items) (among_eq _ true x items)

theorem equality_null {negated : Bool} (t : Term) :
    equality ctx negated t null = (t.sql ctx).map (nullCheck negated) := by
  have hkeep : (t.isNull && !null.isNull) = false := by simp [isNull]
  simp only [equality, hkeep, Bool.false_eq_true, if_false]
  cases t.sql ctx <;> rfl

theorem equality_null_comm {negated : Bool} (t : Term) :
    equality ctx negated null t = equality ctx negated t null := by
  cases t with
  | null => rfl
  | column | value | array | statement | malformed => exact equality_of_null rfl

theorem complementary_equality : Complementary ctx.dialect (Asks ctx .equal l r)
    (equality ctx false l r) (equality ctx true l r) := by
  have ordered (hl : l.isNull = false) : Complementary ctx.dialect (Asks ctx .equal l r)
      (equality ctx false l r) (equality ctx true l r) := by
    simp only [equality, hl, Bool.false_and, Bool.false_eq_true, if_false]
    refine .bind _ fun x hx => ?_
    cases r with
    | null => exact complementary_nullCheck false (.null (by decide) hx)
    | array values =>
      refine complementary_among ?_ fun items hne hitems => .items hl hx hne hitems
      rintro rfl
      exact .noItems hl hx
    | column | value | statement =>
      exact .bind _ fun y hy => .of_eq (.equal hl rfl (by simp) hx hy) rfl rfl
    | malformed t => exact .errors _
  cases l with
  | null =>
    rw [equality_null_comm, equality_null_comm, equality_null, equality_null]
    exact .map _ fun y hy => complementary_nullCheck false (.nullLeft hy)
  | column | value | array | statement | malformed => exact ordered rfl

theorem complementary_documentMembership (hl : ∀ t, l ≠ column t) :
    Complementary ctx.dialect (Asks ctx .membership l r) (documentMembership ctx false l r)
      (documentMembership ctx true l r) :=
  .bind _ fun _ _ => .bind _ fun _ hx => .bind _ fun _ hy =>
    complementary_holds (.document hl hx hy)

theorem complementary_membership : Complementary ctx.dialect (Asks ctx .membership l r)
    (membership ctx false l r) (membership ctx true l r) := by
  cases l with
  | column x =>
    cases r with
    | null => exact complementary_nullCheck false (.member (.inl rfl) (.null (by decide) rfl))
    | array values =>
      refine complementary_among ?_ fun items hne hitems => ?_
      · rintro rfl
        exact .member (.inr ⟨_, rfl⟩) (.noItems rfl rfl)
      · exact .member (.inr ⟨_, rfl⟩) (.items rfl rfl hne hitems)
    | statement query =>
      exact .of_eq .rows (amongRows_eq _ false x query) (amongRows_eq _ true x query)
    | malformed t => exact .errors _
    | column t =>
      exact .bind _ fun y hy => .of_eq (.item (.inl ⟨t, rfl⟩) hy) (amongOne_eq _ false x y)
        (amongOne_eq _ true x y)
    | value v =>
      exact .bind _ fun y hy => .of_eq (.item (.inr ⟨v, rfl⟩) hy) (amongOne_eq _ false x y)
        (amongOne_eq _ true x y)
  | value | array | null | statement | malformed =>
    exact complementary_documentMembership (by simp)

theorem complementary_pattern (hop : op ∈ [.contains, .startsWith, .endsWith]) :
    Complementary ctx.dialect (Asks ctx op l r) (pattern ctx op false l r)
      (pattern ctx op true l r) := by
  have parts (y : Text) : (if (if (wildcards op).1 then ['%'] else []).isEmpty then []
      else [['\'', '%', '\'']]) ++ y :: (if (if (wildcards op).2 then ['%'] else []).isEmpty then []
      else [['\'', '%', '\'']]) = patternParts op y := by
    unfold patternParts
    cases (wildcards op).1 <;> cases (wildcards op).2 <;> rfl
  refine .bind _ fun x hx => ?_
  cases r with
  | null => exact complementary_nullCheck false (.null (List.mem_cons_of_mem _ hop) hx)
  | value v => exact .bind _ fun t ht => .of_eq (.likeText hop hx ht) rfl rfl
  | array values => exact .errors _
  | malformed t => exact .errors _
  | column t =>
    refine .bind _ fun y hy => .of_eq (.like hop (.inl ⟨t, rfl⟩) hx hy) ?_ ?_
    · exact congrArg (x ++ " LIKE ".toList ++ ctx.dialect.concat ·) (parts y)
    · exact congrArg (x ++ " NOT LIKE ".toList ++ ctx.dialect.concat ·) (parts y)
  | statement query =>
    refine .bind _ fun y hy => .of_eq (.like hop (.inr ⟨query, rfl⟩) hx hy) ?_ ?_
    · exact congrArg (x ++ " LIKE ".toList ++ ctx.dialect.concat ·) (parts y)
    · exact congrArg (x ++ " NOT LIKE ".toList ++ ctx.dialect.concat ·) (parts y)

theorem complementary_regexp : Complementary ctx.dialect (Asks ctx .regexp l r)
    (regexp ctx false l r) (regexp ctx true l r) :=
  .bind _ fun _ hx => .bind _ fun _ hy =>
    .of_eq (.regexp hx hy) (matchOperator_eq _ false _ _) (matchOperator_eq _ true _ _)

theorem complementary_jsonKeyExists : Complementary ctx.dialect (Asks ctx .jsonKeyExists l r)
    (jsonKeyExists ctx false l r) (jsonKeyExists ctx true l r) := by
  refine .bind _ fun _ _ => .bind _ fun x hx => ?_
  cases r with
  | array values =>
    exact .bind _ fun j hj => complementary_holds (.keys hx hj)
  | column | value | null | statement | malformed =>
    exact .bind _ fun y hy => complementary_nullCheck true (.key (by simp) hx hy)

theorem pathText_eq_ok {path : Text} (h : r.pathText ctx = .ok path) :
    r = value (.text path) ∧ path.head? = some '$' := by
  unfold pathText at h
  split at h
  · split at h
    · next hhead =>
      cases h
      exact ⟨rfl, hhead⟩
    · cases h
  · obtain ⟨_, -, h⟩ := exists_of_bind_eq_ok h
    cases h
  · obtain ⟨_, -, h⟩ := exists_of_bind_eq_ok h
    cases h

theorem complementary_jsonPathExists : Complementary ctx.dialect (Asks ctx .jsonPathExists l r)
    (jsonPathExists ctx false l r) (jsonPathExists ctx true l r) := by
  refine .bind _ fun path hpath => .bind _ fun x hx => ?_
  obtain ⟨rfl, hhead⟩ := pathText_eq_ok hpath
  exact complementary_nullCheck true (.path hhead hx)

theorem complementary_jsonContains : Complementary ctx.dialect (Asks ctx .jsonContains l r)
    (jsonContains ctx false l r) (jsonContains ctx true l r) :=
  .bind _ fun _ _ => .bind _ fun _ hx => .bind _ fun _ hy => complementary_holds (.contains hx hy)

theorem complementary_jsonSearch : Complementary ctx.dialect (Asks ctx .jsonSearch l r)
    (jsonSearch ctx false l r) (jsonSearch ctx true l r) :=
  .bind _ fun _ _ => .bind _ fun _ hx => .bind _ fun _ hy =>
    complementary_nullCheck true (.search hx hy)

theorem complementary_between (written : Text) : Complementary ctx.dialect (Asks ctx .between l r)
    (between ctx false l r written) (between ctx true l r written) := by
  unfold between
  split
  · exact .bind _ fun x hx => .bind _ fun a ha => .bind _ fun b hb =>
      .of_eq (.between hx ha hb) rfl rfl
  · exact .errors _
  · exact .errors _

theorem complementary_ordering (hop : op ∈ [.greater, .less, .greaterOrEqual, .lessOrEqual]) :
    Complementary ctx.dialect (Asks ctx op l r) (ordering ctx op false l r)
      (ordering ctx op true l r) :=
  .bind _ fun _ hx => .bind _ fun _ hy => complementary_holds (.ordering hop hx hy)

theorem complementary_compare (op : Operator) (written : Text) :
    Complementary ctx.dialect (Asks ctx op l r) (compare ctx op false l r written)
      (compare ctx op true l r written) := by
  cases op with
  | equal => exact complementary_equality
  | notEqual => exact complementary_equality.symm.mono fun p denied h => .notEqual h
  | membership => exact complementary_membership
  | contains => exact complementary_pattern (by decide)
  | startsWith => exact complementary_pattern (by decide)
  | endsWith => exact complementary_pattern (by decide)
  | regexp => exact complementary_regexp
  | jsonKeyExists => exact complementary_jsonKeyExists
  | jsonPathExists => exact complementary_jsonPathExists
  | jsonContains => exact complementary_jsonContains
  | jsonSearch => exact complementary_jsonSearch
  | between => exact complementary_between written
  | notBetween => exact (complementary_between written).symm.mono fun p denied h => .notBetween h
  | greater => exact complementary_ordering (by decide)
  | less => exact complementary_ordering (by decide)
  | greaterOrEqual => exact complementary_ordering (by decide)
  | lessOrEqual => exact complementary_ordering (by decide)

end Term

namespace Operand

variable {ctx : Context} {l r : Operand}

/-- What a comparison of two operands asks for once their names are looked up. -/
def Asks (ctx : Context) (op : Operator) (l r : Operand) (p : Predicate) (denied : Bool) : Prop :=
  ∃ lt rt, l.term ctx r = .ok lt ∧ r.term ctx l = .ok rt ∧ Term.Asks ctx op lt rt p denied

theorem complementary_compare (op : Operator) : Complementary ctx.dialect (Asks ctx op l r)
    (compare ctx op false l r) (compare ctx op true l r) := by
  refine .bind _ fun lt hl => .bind _ fun rt hr => .bind _ fun lt' hl' => .bind _ fun rt' hr' => ?_
  obtain rfl := Term.checked_eq_ok hl'
  obtain rfl := Term.checked_eq_ok hr'
  exact (Term.complementary_compare op r.written).mono fun p denied h => ⟨_, _, hl, hr, h⟩

theorem flag_of_null (negated : Bool) {o : Operand} (h : o.term ctx null = .ok .null) :
    o.flag ctx negated = .ok (Value.bit negated) := by
  rw [flag, h]
  rfl

theorem flag_of_ne_null (negated : Bool) {o : Operand} (h : o.term ctx null ≠ .ok .null) :
    o.flag ctx negated = (o.sql ctx).map fun e => (Predicate.holds e).sql ctx.dialect negated := by
  simp only [← Term.negatedIf_eq]
  rw [flag, sql]
  cases ht : o.term ctx null with
  | error e => rfl
  | ok t =>
    cases t with
    | null => exact absurd ht h
    | value v =>
      have written (x : Compiled) : (do return Term.negatedIf ctx negated (← x)) =
          x.map (Term.negatedIf ctx negated) := by
        cases x <;> rfl
      exact written (v.sql ctx.dialect)
    | _ => rfl

end Operand

namespace Expr

theorem sql_of_negation (ctx : Context) (l r o : Operand) (op : Operator) :
    Complementary ctx.dialect (l.Asks ctx op r) ((compare l op r).sql ctx)
      ((not (compare l op r)).sql ctx) ∧
    (∀ (V : Type) (row : Sql.Row V) (p : Predicate) (denied : Bool),
      p.truth row (!denied) = (p.truth row denied).not) ∧
    (not (compare l .notEqual r)).sql ctx = (compare l .equal r).sql ctx ∧
    (not (compare l .notBetween r)).sql ctx = (compare l .between r).sql ctx ∧
    (o.term ctx .null = .ok .null →
      (flag o).sql ctx = .ok ['0'] ∧ (not (flag o)).sql ctx = .ok ['1']) ∧
    (o.term ctx .null ≠ .ok .null → (flag o).sql ctx = o.sql ctx ∧
      (not (flag o)).sql ctx =
        (o.sql ctx).map fun e => (Predicate.holds e).sql ctx.dialect true) := by
  refine ⟨Operand.complementary_compare op, fun V row p => p.truth_not row, rfl, rfl, ?_, ?_⟩
  · intro hnull
    exact ⟨Operand.flag_of_null false hnull, Operand.flag_of_null true hnull⟩
  · intro hnull
    refine ⟨(Operand.flag_of_ne_null false hnull).trans ?_, Operand.flag_of_ne_null true hnull⟩
    cases o.sql ctx <;> rfl

/-- A name without a value is false as a flag, a column is true or false by itself. -/
theorem sql_of_negation_flag : ∃ p c : Operand,
    p.term {} .null = .ok .null ∧ c.term {} .null ≠ .ok .null ∧
    (flag p).sql {} = .ok ['0'] ∧ (not (flag p)).sql {} = .ok ['1'] ∧
    (not (flag c)).sql {} = .ok "!(\x60a\x60)".toList := by
  let p := Operand.parameter ['p']
  let c := Operand.column { name := ['a'] }
  have hp : p.term {} .null = .ok .null := rfl
  have hc : c.term {} .null ≠ .ok .null := by
    rintro ⟨⟩
  obtain ⟨-, -, -, -, hnull, -⟩ := sql_of_negation {} c p p .equal
  obtain ⟨-, -, -, -, -, hother⟩ := sql_of_negation {} c p c .equal
  exact ⟨p, c, hp, hc, (hnull hp).1, (hnull hp).2, (hother hc).2⟩

end Expr

end QueryShorthand
