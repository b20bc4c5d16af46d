import QueryShorthand.Condition.Reader
import QueryShorthand.Proofs.Condition.Negation

/-! Null on either side of `=` and `!=`, and as a list is looked up in a column. -/
namespace QueryShorthand

variable {ctx : Context} {negated : Bool} {t : Term}

namespace Context

def LacksValue (ctx : Context) (name : Text) : Prop :=
  ctx.params.get? name = none ∨ ctx.params.get? name = some .null

end Context

namespace Term

theorem ofValue_eq_null_iff {v : Value} : ofValue ctx v = .ok null ↔ v = .null := by
  constructor
  · intro h
    cases v with
    | null => rfl
    | statement s =>
      obtain ⟨sql, -, hsql⟩ := exists_of_map_eq_ok h
      cases hsql
    | bool | int | float | text | array | json => cases h
  · rintro rfl
    rfl

theorem bound_eq_null_iff {name : Text} : bound ctx name = .ok null ↔ ctx.LacksValue name := by
  unfold bound Context.LacksValue
  cases ctx.params.get? name with
  | none => simp
  | some v => simp [ofValue_eq_null_iff]

/-- A check that fails on the way to a term's SQL fails as the SQL itself does. -/
theorem checked_bind_sql {β : Type} (f : Text → β) (t : Term) :
    (t.checked >>= fun t => (t.sql ctx).map f) = (t.sql ctx).map f := by
  cases t <;> rfl

theorem membership_column (sql : Text) (h : t = null ∨ ∃ values, t = array values) :
    membership ctx negated (column sql) t = equality ctx negated (column sql) t := by
  rcases h with rfl | ⟨values, rfl⟩ <;> rfl

end Term

namespace Operand

variable {x n l r : Operand} {op : Operator}

inductive ResolvesToNull (ctx : Context) : Operand → (other : Operand) → Prop where
  | null {other : Operand} : ResolvesToNull ctx null other
  | parameter {other : Operand} {name : Text} (h : ctx.LacksValue name) :
      ResolvesToNull ctx (parameter name) other
  | auto {c : Column} (h : ctx.LacksValue c.name) : ResolvesToNull ctx auto (column c)

theorem resolvesToNull_iff : n.ResolvesToNull ctx x ↔ n.term ctx x = .ok .null := by
  constructor
  · intro h
    cases h with
    | null => rfl
    | parameter h => exact Term.bound_eq_null_iff.2 h
    | auto h => exact Term.bound_eq_null_iff.2 h
  · intro h
    cases n with
    | null => exact .null
    | parameter name => exact .parameter (Term.bound_eq_null_iff.1 h)
    | auto =>
      cases x with
      | column c => exact .auto (Term.bound_eq_null_iff.1 h)
      | auto | parameter | literal | array | malformedArray | null | call => cases h
    | call name args =>
      obtain ⟨sqls, -, h⟩ := exists_of_bind_eq_ok h
      cases h
    | column | literal | array | malformedArray => cases h

def nullChecked (ctx : Context) (x other : Operand) (negated : Bool) : Compiled :=
  (x.term ctx other >>= Term.sql ctx).map fun sql =>
    (Sql.Predicate.isNull sql).sql ctx.dialect negated

theorem nullChecked_eq : nullChecked ctx x n negated =
    (x.term ctx n >>= Term.sql ctx).map (Term.nullCheck negated) := by
  have heq :
      (fun sql => (Sql.Predicate.isNull sql).sql ctx.dialect negated) = Term.nullCheck negated := by
    funext sql
    exact (Term.nullCheck_eq ctx.dialect negated sql).symm
  rw [nullChecked, heq]

/-- Whether the null check of such a comparison is negated. -/
def negates (op : Operator) (negated : Bool) : Bool := negated != (op == .notEqual)

theorem term_compare_equality (hop : op ∈ [.equal, .notEqual]) (lt rt : Term) (written : Text) :
    Term.compare ctx op negated lt rt written = Term.equality ctx (negates op negated) lt rt := by
  rw [List.mem_cons, List.mem_singleton] at hop
  rcases hop with rfl | rfl
  · cases negated <;> rfl
  · cases negated <;> rfl

theorem compare_null_right (hop : op ∈ [.equal, .notEqual]) (hn : n.ResolvesToNull ctx x) :
    compare ctx op negated x n = nullChecked ctx x n (negates op negated) := by
  have hnull := resolvesToNull_iff.1 hn
  rw [nullChecked_eq, compare, hnull]
  cases x.term ctx n with
  | error e => rfl
  | ok t =>
    change (t.checked >>= fun t => Term.compare ctx op negated t .null _) = _
    refine Eq.trans ?_ (Term.checked_bind_sql (Term.nullCheck (negates op negated)) t)
    apply congrArg
    funext t
    exact (term_compare_equality hop t .null _).trans (Term.equality_null t)

theorem compare_null_left (hop : op ∈ [.equal, .notEqual]) (hn : n.ResolvesToNull ctx x) :
    compare ctx op negated n x = nullChecked ctx x n (negates op negated) := by
  have hnull := resolvesToNull_iff.1 hn
  rw [← compare_null_right hop hn, compare, compare, hnull]
  cases x.term ctx n with
  | error e => rfl
  | ok t =>
    change (t.checked >>= fun t => _) = (t.checked >>= fun t => _)
    apply congrArg
    funext t
    change Term.compare ctx op negated .null t _ = Term.compare ctx op negated t .null _
    rw [term_compare_equality hop, term_compare_equality hop]
    exact Term.equality_null_comm t

def isReference : Operand → Bool
  | column _ | call .. => true
  | _ => false

theorem compare_membership (hl : l.isReference = true)
    (hr : r.ResolvesToNull ctx l ∨ ∃ values, r.term ctx l = .ok (.array values)) :
    compare ctx .membership negated l r = compare ctx .equal negated l r := by
  obtain ⟨rt, hrt, hnull⟩ :
      ∃ rt, r.term ctx l = .ok rt ∧ (rt = .null ∨ ∃ values, rt = .array values) := by
    rcases hr with hnull | ⟨values, hvalues⟩
    · exact ⟨_, resolvesToNull_iff.1 hnull, .inl rfl⟩
    · exact ⟨_, hvalues, .inr ⟨values, rfl⟩⟩
  have hcheck : rt.checked = .ok rt := by
    rcases hnull with rfl | ⟨values, rfl⟩ <;> rfl
  have hcolumn (sql : Text) : Term.compare ctx .membership negated (.column sql) rt r.written =
      Term.compare ctx .equal negated (.column sql) rt r.written :=
    Term.membership_column sql hnull
  have hterm : (∃ err, l.term ctx r = .error err) ∨ ∃ sql, l.term ctx r = .ok (.column sql) := by
    cases l with
    | column c => exact .inr ⟨_, rfl⟩
    | call name args =>
      cases hargs : argumentsSql ctx args with
      | error err => exact .inl ⟨err, by rw [term, hargs]; rfl⟩
      | ok sqls => exact .inr ⟨_, by rw [term, hargs]; rfl⟩
    | auto | parameter | literal | array | malformedArray | null => cases hl
  unfold compare
  rcases hterm with ⟨err, hl⟩ | ⟨sql, hl⟩
  · rw [hl]
    rfl
  · rw [hl, hrt]
    change (rt.checked >>= fun rt => _) = (rt.checked >>= fun rt => _)
    rw [hcheck]
    exact hcolumn sql

end Operand

namespace Expr

variable {l r : Operand} {op : Operator} {e : Expr} {clip : Text}

theorem swapped_of_equality (hop : op ∈ [.equal, .notEqual]) : op.swapped = op := by
  rw [List.mem_cons, List.mem_singleton] at hop
  rcases hop with rfl | rfl <;> rfl

theorem comparison_cases (h : comparison clip l op r = .ok e) :
    e = compare l op r ∨ e = compare r op.swapped l := by
  unfold comparison at h
  split at h
  · cases h
  · split at h
    · exact .inr (Except.ok.inj h).symm
    · exact .inl (Except.ok.inj h).symm

theorem comparison_of_isReference (hl : l.isReference = true) :
    comparison clip l op r = .ok (compare l op r) := by
  cases l with
  | column | call => rfl
  | auto | parameter | literal | array | malformedArray | null => cases hl

open Operand in
/-- Compared with null by `=` or `!=`, any operand is checked for null, on either side and as read
from a text as well. With a column or a call on the left, null and lists are equal to it if it is
among them. -/
theorem null_safe (ctx : Context) :
    (∀ (x n : Operand) (op : Operator) (negated : Bool), op ∈ [.equal, .notEqual] →
      n.ResolvesToNull ctx x →
      Operand.compare ctx op negated x n = nullChecked ctx x n (negates op negated) ∧
      Operand.compare ctx op negated n x = nullChecked ctx x n (negates op negated)) ∧
    (∀ (clip : Text) (x n l r : Operand) (op : Operator) (e : Expr), op ∈ [.equal, .notEqual] →
      n.ResolvesToNull ctx x → (l = x ∧ r = n ∨ l = n ∧ r = x) → comparison clip l op r = .ok e →
      e.sql ctx = nullChecked ctx x n (negates op false) ∧
      (not e).sql ctx = nullChecked ctx x n (negates op true)) ∧
    ∀ (l r : Operand), l.isReference = true →
      (r.ResolvesToNull ctx l ∨ ∃ values, r.term ctx l = .ok (.array values)) →
      (∀ negated, Operand.compare ctx .membership negated l r =
        Operand.compare ctx .equal negated l r) ∧
      ∀ clip op, comparison clip l op r = .ok (compare l op r) := by
  refine ⟨?_, ?_, ?_⟩
  · intro x n op negated hop hn
    exact ⟨compare_null_right hop hn, compare_null_left hop hn⟩
  · intro clip x n l r op e hop hn hsides he
    have heither : e = compare x op n ∨ e = compare n op x := by
      have hcases := comparison_cases he
      rw [swapped_of_equality hop] at hcases
      rcases hsides with ⟨rfl, rfl⟩ | ⟨rfl, rfl⟩
      · exact hcases
      · exact hcases.symm
    rcases heither with rfl | rfl
    · exact ⟨compare_null_right hop hn, compare_null_right hop hn⟩
    · exact ⟨compare_null_left hop hn, compare_null_left hop hn⟩
  · intro l r hl hr
    exact ⟨fun negated => compare_membership hl hr, fun clip op => comparison_of_isReference hl⟩

/-- A `?` without a value, written in front of its column, and a list without an element. -/
theorem null_safe_unbound : ∃ a : Operand, a = .column { name := ['a'] } ∧
    Operand.compare {} .notEqual true a .auto = .ok "\x60a\x60 IS NULL".toList ∧
    Operand.compare {} .notEqual true .auto a = .ok "\x60a\x60 IS NULL".toList ∧
    comparison "?=a".toList .auto .equal a = .ok (compare a .equal .auto) ∧
    (compare a .equal .auto).sql {} = .ok "\x60a\x60 IS NULL".toList ∧
    Operand.compare {} .membership true a (.array []) = .ok "\x60a\x60 IS NOT NULL".toList ∧
    Operand.compare {} .equal true a (.array []) = .ok "\x60a\x60 IS NOT NULL".toList := by
  obtain ⟨hside, hread, hlist⟩ := null_safe {}
  have hauto : Operand.auto.ResolvesToNull {} (.column { name := ['a'] }) := .auto (.inl rfl)
  have hnot : (.notEqual : Operator) ∈ [.equal, .notEqual] := by decide
  have hequal : (.equal : Operator) ∈ [.equal, .notEqual] := by decide
  have hcompare := hside _ _ .notEqual true hnot hauto
  have hcomparison : comparison "?=a".toList .auto .equal (.column { name := ['a'] }) =
      .ok (compare (.column { name := ['a'] }) .equal .auto) := rfl
  have hsql := (hread _ _ _ _ _ _ _ hequal hauto (.inr ⟨rfl, rfl⟩) hcomparison).1
  have hempty := (hlist (.column { name := ['a'] }) (.array []) rfl (.inr ⟨[], rfl⟩)).1 true
  refine ⟨_, rfl, ?_, ?_, hcomparison, ?_, ?_, ?_⟩
  · rw [hcompare.1]
    decide
  · rw [hcompare.2]
    decide
  · rw [hsql]
    decide
  · rw [hempty]
    decide
  · decide

end Expr

end QueryShorthand
