import QueryShorthand.Proofs.Condition.Comparison
import QueryShorthand.Proofs.Value.NonFinite

/-! Conditions that would have to write a number that is not finite as SQL. -/
namespace QueryShorthand

def Fails {α : Type} (x : Except Error α) : Prop := ∃ e, x = .error e

namespace Fails

variable {α β : Type} {x : Except Error α} {f : α → Except Error β}

theorem error (e : Error) : Fails (.error e : Except Error α) := ⟨e, rfl⟩

theorem bind (h : Fails x) : Fails (x >>= f) := by
  obtain ⟨e, rfl⟩ := h
  exact .error e

theorem behind (x : Except Error α) (h : ∀ a, x = .ok a → Fails (f a)) : Fails (x >>= f) := by
  cases x with
  | error e => exact .error e
  | ok a => exact h a rfl

theorem map {f : α → β} (h : Fails x) : Fails (x.map f) := by
  obtain ⟨e, rfl⟩ := h
  exact .error e

end Fails

variable {ctx : Context}

namespace Term

variable {l r t : Term} {op : Operator} {values : List Value}

def isNonFinite : Term → Bool
  | value v => v.isNonFinite
  | _ => false

/-- A list with a number that is not finite in it; lists inside the list do not count. -/
def listsNonFinite : Term → Bool
  | array values => values.any Value.isNonFinite
  | _ => false

def isColumn : Term → Bool
  | column _ => true
  | _ => false

def writesLeft (op : Operator) : Bool := op != .membership

/-- The right side, if it is no list, is written as SQL, neither as JSON nor as a pattern. -/
def writesRight (op : Operator) (l : Term) : Bool :=
  match op with
  | .membership => l.isColumn
  | .contains | .startsWith | .endsWith | .jsonContains => false
  | _ => true

/-- Each value of a list on the right side is written as SQL, or there must be no list. -/
def writesItems (op : Operator) (l : Term) : Bool :=
  match op with
  | .equal | .notEqual => !l.isNull
  | .membership => l.isColumn
  | .between | .notBetween | .contains | .startsWith | .endsWith | .jsonPathExists => true
  | _ => false

/-- The comparison has to write a number that is not finite as SQL. -/
inductive Refused : Operator → Term → Term → Prop where
  | left {op : Operator} {l r : Term} (hop : writesLeft op = true) (h : l.isNonFinite = true) :
      Refused op l r
  | right {op : Operator} {l r : Term} (hop : writesRight op l = true) (h : r.isNonFinite = true) :
      Refused op l r
  | item {op : Operator} {l r : Term} (hop : writesItems op l = true)
      (h : r.listsNonFinite = true) :
      Refused op l r

theorem fails_sql (h : t.isNonFinite = true) : Fails (t.sql ctx) := by
  cases t with
  | value v =>
    obtain ⟨x, -, hx⟩ := Value.sql_of_isNonFinite ctx.dialect h
    exact ⟨_, hx⟩
  | _ => cases h

theorem fails_valueList (h : values.any Value.isNonFinite = true) :
    Fails (valueList ctx values) := by
  induction values with
  | nil => cases h
  | cons v values ih =>
    rw [List.any_cons, Bool.or_eq_true] at h
    rcases h with hv | hvalues
    · exact (fails_sql (t := value v) hv).bind
    · exact .behind _ fun _ _ => (ih hvalues).bind

theorem fails_among (negated : Bool) (sql : Text) (h : values.any Value.isNonFinite = true) :
    Fails (among ctx negated sql values) := by
  cases values with
  | nil => cases h
  | cons v values => exact (fails_valueList h).bind

section

variable (negated : Bool) (written : Text)

theorem fails_left (hop : writesLeft op = true) (h : l.isNonFinite = true) :
    Fails (compare ctx op negated l r written) := by
  have hl : Fails (l.sql ctx) := fails_sql h
  have hnull : l.isNull = false := by
    cases l with
    | null => cases h
    | _ => rfl
  have hequality (negated : Bool) : Fails (equality ctx negated l r) := by
    rw [equality, hnull, Bool.false_and]
    exact hl.bind
  have hbetween (negated : Bool) : Fails (between ctx negated l r written) := by
    unfold between
    split
    · exact hl.bind
    · exact .error _
    · exact .error _
  cases op with
  | equal => exact hequality negated
  | notEqual => exact hequality (!negated)
  | membership => cases hop
  | contains | startsWith | endsWith => exact hl.bind
  | regexp | greater | less | greaterOrEqual | lessOrEqual => exact hl.bind
  | jsonKeyExists | jsonPathExists | jsonContains | jsonSearch => exact .behind _ fun _ _ => hl.bind
  | between => exact hbetween negated
  | notBetween => exact hbetween (!negated)

theorem fails_right (hop : writesRight op l = true) (h : r.isNonFinite = true) :
    Fails (compare ctx op negated l r written) := by
  obtain ⟨x, rfl⟩ : ∃ x, r = value (.float x) := by
    cases r with
    | value v =>
      obtain ⟨x, rfl, -⟩ := Value.sql_of_isNonFinite ctx.dialect h
      exact ⟨x, rfl⟩
    | _ => cases h
  have hr : Fails ((value (.float x)).sql ctx) := fails_sql h
  have hequality (negated : Bool) : Fails (equality ctx negated l (value (.float x))) := by
    cases l with
    | null => exact hr.bind
    | _ => exact .behind _ fun _ _ => hr.bind
  cases op with
  | equal => exact hequality negated
  | notEqual => exact hequality (!negated)
  | membership =>
    cases l with
    | column sql => exact hr.bind
    | _ => cases hop
  | contains | startsWith | endsWith | jsonContains => cases hop
  | regexp | greater | less | greaterOrEqual | lessOrEqual => exact .behind _ fun _ _ => hr.bind
  | jsonKeyExists | jsonSearch => exact .behind _ fun _ _ => .behind _ fun _ _ => hr.bind
  | jsonPathExists => exact (Fails.error _).bind
  | between | notBetween => exact .error _

theorem fails_item (hop : writesItems op l = true) (h : r.listsNonFinite = true) :
    Fails (compare ctx op negated l r written) := by
  obtain ⟨values, rfl⟩ : ∃ values, r = array values := by
    cases r with
    | array values => exact ⟨values, rfl⟩
    | _ => cases h
  have hequality (negated : Bool) (hnull : (!l.isNull) = true) :
      Fails (equality ctx negated l (array values)) := by
    rw [Bool.not_eq_true'] at hnull
    rw [equality, hnull, Bool.false_and]
    exact .behind _ fun sql _ => fails_among negated sql h
  have hbetween (negated : Bool) : Fails (between ctx negated l (array values) written) := by
    rcases values with _ | ⟨low, _ | ⟨high, _ | ⟨third, values⟩⟩⟩
    · cases h
    · exact .error _
    · refine .behind _ fun _ _ => ?_
      simp only [listsNonFinite, List.any_cons, List.any_nil, Bool.or_false, Bool.or_eq_true] at h
      rcases h with hlow | hhigh
      · exact (fails_sql (t := value low) hlow).bind
      · exact .behind _ fun _ _ => (fails_sql (t := value high) hhigh).bind
    · exact .error _
  cases op with
  | equal => exact hequality negated hop
  | notEqual => exact hequality (!negated) hop
  | membership =>
    cases l with
    | column sql => exact fails_among negated sql h
    | _ => cases hop
  | contains | startsWith | endsWith => exact .behind _ fun _ _ => .error _
  | jsonPathExists => exact Fails.bind (.behind _ fun _ _ => .error _)
  | between => exact hbetween negated
  | notBetween => exact hbetween (!negated)
  | regexp | jsonKeyExists | jsonContains | jsonSearch => cases hop
  | greater | less | greaterOrEqual | lessOrEqual => cases hop

theorem Refused.fails (h : Refused op l r) : Fails (compare ctx op negated l r written) := by
  cases h with
  | left hop h => exact fails_left negated written hop h
  | right hop h => exact fails_right negated written hop h
  | item hop h => exact fails_item negated written hop h

end

end Term

namespace Operand

variable {o l r : Operand} {op : Operator}

/-- A number that is not finite is an argument of the call, or of a call in its arguments. -/
inductive Passes (ctx : Context) : Operand → Prop where
  | argument {name : Text} {args : List Operand} {a : Operand} {t : Term} (hm : a ∈ args)
      (ht : a.term ctx null = .ok t) (h : t.isNonFinite = true) : Passes ctx (call name args)
  | inside {name : Text} {args : List Operand} {a : Operand} (hm : a ∈ args) (h : Passes ctx a) :
      Passes ctx (call name args)

def RefusesFlag (ctx : Context) (o : Operand) : Prop :=
  o.Passes ctx ∨ ∃ t, o.term ctx null = .ok t ∧ t.isNonFinite = true

/-- The comparison writes a number that is not finite as SQL, or one of its sides passes one. -/
def RefusesPair (ctx : Context) (l : Operand) (op : Operator) (r : Operand) : Prop :=
  l.Passes ctx ∨ r.Passes ctx ∨
    ∃ lt rt, l.term ctx r = .ok lt ∧ r.term ctx l = .ok rt ∧ Term.Refused op lt rt

theorem fails_argumentsSql {a : Operand} {args : List Operand} (hm : a ∈ args)
    (h : Fails (a.term ctx null >>= Term.sql ctx)) : Fails (argumentsSql ctx args) := by
  induction args with
  | nil => cases hm
  | cons b args ih =>
    rcases List.mem_cons.1 hm with rfl | hm
    · obtain ⟨e, he⟩ := h
      rcases error_or_exists_of_bind_eq_error he with ha | ⟨t, ha, ht⟩
      · rw [argumentsSql, ha]
        exact .error e
      · rw [argumentsSql, ha]
        exact Fails.bind (x := t.sql ctx) ⟨e, ht⟩
    · exact .behind _ fun _ _ => .behind _ fun _ _ => (ih hm).bind

theorem Passes.fails (h : o.Passes ctx) (other : Operand) : Fails (o.term ctx other) := by
  induction h generalizing other with
  | argument hm ht h =>
    refine (fails_argumentsSql hm ?_).bind
    rw [ht]
    exact Term.fails_sql h
  | inside hm _ ih => exact (fails_argumentsSql hm (ih null).bind).bind

theorem RefusesFlag.fails (h : o.RefusesFlag ctx) (negated : Bool) :
    Fails (o.flag ctx negated) := by
  rcases h with hpasses | ⟨t, ht, h⟩
  · exact (hpasses.fails null).bind
  · rw [flag, ht]
    cases t with
    | value v => exact (Term.fails_sql h).bind
    | _ => cases h

theorem RefusesPair.fails (h : RefusesPair ctx l op r) (negated : Bool) :
    Fails (compare ctx op negated l r) := by
  rcases h with hl | hr | ⟨lt, rt, hl, hr, h⟩
  · exact (hl.fails r).bind
  · exact .behind _ fun _ _ => (hr.fails l).bind
  · rw [compare, hl, hr]
    refine .behind lt.checked fun a ha => .behind rt.checked fun b hb => ?_
    rw [Term.checked_eq_ok ha, Term.checked_eq_ok hb]
    exact h.fails negated r.written

end Operand

namespace Expr

variable {e : Expr}

/-- A flag of the tree has the one property, or a comparison the other. -/
inductive Meets (P : Operand → Prop) (Q : Operand → Operator → Operand → Prop) : Expr → Prop where
  | flag {o : Operand} (h : P o) : Meets P Q (flag o)
  | compare {l r : Operand} {op : Operator} (h : Q l op r) : Meets P Q (compare l op r)
  | not {e : Expr} (h : Meets P Q e) : Meets P Q (not e)
  | group {e : Expr} (h : Meets P Q e) : Meets P Q (group e)
  | all {items : List Expr} {e : Expr} (hm : e ∈ items) (h : Meets P Q e) : Meets P Q (all items)
  | any {items : List Expr} {e : Expr} (hm : e ∈ items) (h : Meets P Q e) : Meets P Q (any items)

/-- Somewhere in the tree a number that is not finite would have to be written as SQL. -/
def Refused (ctx : Context) (e : Expr) : Prop :=
  e.Meets (Operand.RefusesFlag ctx) (Operand.RefusesPair ctx)

theorem fails_sqlAll {items : List Expr} (hm : e ∈ items) (h : Fails (e.sql ctx)) :
    Fails (sqlAll ctx items) := by
  induction items with
  | nil => cases hm
  | cons e' items ih =>
    rcases List.mem_cons.1 hm with rfl | hm
    · exact h.bind
    · exact .behind _ fun _ _ => (ih hm).bind

/-- A negation goes into a flag or a comparison, so that both forms are looked at together. -/
theorem fails_of_meets {P : Operand → Prop} {Q : Operand → Operator → Operand → Prop}
    (hflag : ∀ o, P o → ∀ negated, Fails (o.flag ctx negated))
    (hpair : ∀ l op r, Q l op r → ∀ negated, Fails (Operand.compare ctx op negated l r))
    (h : e.Meets P Q) :
    Fails (e.sql ctx) ∧ Fails ((not e).sql ctx) := by
  induction h with
  | flag h => exact ⟨hflag _ h false, hflag _ h true⟩
  | compare h => exact ⟨hpair _ _ _ h false, hpair _ _ _ h true⟩
  | not _ ih => exact ⟨ih.2, ih.2.map⟩
  | group _ ih => exact ⟨ih.1.map, ih.1.map⟩
  | all hm _ ih =>
    have hall : Fails ((all _).sql ctx) := (fails_sqlAll hm ih.1).map
    exact ⟨hall, hall.map⟩
  | any hm _ ih =>
    have hany : Fails ((any _).sql ctx) := (fails_sqlAll hm ih.1).map
    exact ⟨hany, hany.map⟩

theorem Refused.fails_both (h : e.Refused ctx) : Fails (e.sql ctx) ∧ Fails ((not e).sql ctx) :=
  fails_of_meets (fun _ h => h.fails) (fun _ _ _ h => h.fails) h

end Expr

end QueryShorthand
