import QueryShorthand.Proofs.Condition.Comparison
import QueryShorthand.Proofs.Condition.Formed
import QueryShorthand.Proofs.Operand.Sound

/-! Conditions compiled twice, under bags whose values have one shape. -/
namespace QueryShorthand

open Sql (Alike)

variable {target : Target} {p q : Parameters} {strict : Prop}

namespace Operand

mutual

theorem agree_term (h : p.SameShape q) : ∀ {o : Operand}, o.Sound → ∀ other,
    Agree (Term.SameShape target.dialect) strict (o.term ⟨target, p⟩ other)
      (o.term ⟨target, q⟩ other)
  | column c, _, _ => .ok (.column c.alike_sql)
  | call name args, hs, _ => by
    rw [Sound] at hs
    refine (agree_argumentsSql h hs.2).bind fun ts us ht => .ok (.column ?_)
    exact .call hs.1 (.list ht)
  | parameter name, _, _ => Term.agree_bound h name
  | literal _, _, _ => .ok (.value trivial)
  | array _, hs, _ => .ok (.array (Value.sameShapes_refl hs))
  | malformedArray t, _, _ => .ok (.malformed t)
  | null, _, _ => .ok .null
  | auto, _, other => by
    rw [term, term]
    cases other.column? with
    | some c => exact Term.agree_bound h c.name
    | none => exact .errors

theorem agree_argumentsSql (h : p.SameShape q) : ∀ {os : List Operand}, SoundAll os →
    Agree (List.Forall₂ (Alike target.dialect)) strict (argumentsSql ⟨target, p⟩ os)
      (argumentsSql ⟨target, q⟩ os)
  | [], _ => .ok .nil
  | o :: os, hs => by
    rw [SoundAll] at hs
    refine (agree_term h hs.1 null).bind fun t u ht => ?_
    refine (Term.agree_sql ht).bind fun s v hv => ?_
    exact (agree_argumentsSql h hs.2).bind fun ts us hts => .ok (.cons hv hts)

end

theorem agree_sql (h : p.SameShape q) {o : Operand} (hs : o.Sound) :
    Agree (Alike target.dialect) strict (o.sql ⟨target, p⟩) (o.sql ⟨target, q⟩) := by
  refine (agree_term h hs null).bind fun t u ht => ?_
  cases ht with
  | array h => exact .errors
  | column h => exact Term.agree_sql (.column h)
  | value h => exact Term.agree_sql (.value h)
  | null => exact Term.agree_sql .null
  | malformed t => exact Term.agree_sql (.malformed t)

def isBound (p : Parameters) (o other : Operand) : Bool :=
  match o with
  | parameter name => (p.get? name).isSome
  | auto => other.column?.any fun c => (p.get? c.name).isSome
  | _ => false

theorem isBound_eq (h : p.SameShape q) (o other : Operand) :
    o.isBound p other = o.isBound q other := by
  cases o with
  | parameter name => exact h.isSome_eq name
  | auto =>
    cases hc : other.column? with
    | some c => simp [isBound, hc, h.isSome_eq]
    | none => simp [isBound, hc]
  | _ => rfl

theorem bound_of_unbound {ctx : Context} {name : Text} (h : (ctx.params.get? name).isSome = false) :
    Term.bound ctx name = .ok .null := by
  have hn : ctx.params.get? name = none := by simpa using h
  rw [Term.bound, hn]

theorem literal_of_term {ctx : Context} {o other : Operand} (h : o.isBound ctx.params other = false)
    {t : Text} (ht : o.term ctx other = .ok (.value (.text t))) : o = literal t := by
  cases o with
  | literal u =>
    cases ht
    rfl
  | parameter name =>
    rw [term, bound_of_unbound h] at ht
    cases ht
  | auto =>
    rw [term] at ht
    cases hc : other.column? with
    | none => simp [hc] at ht
    | some c =>
      simp only [isBound, hc, Option.any_some] at h
      simp [hc, bound_of_unbound h] at ht
  | call name args =>
    rw [term] at ht
    obtain ⟨ts, -, ht⟩ := exists_of_bind_eq_ok ht
    cases ht
  | _ => cases ht

theorem agree_compare (h : p.SameShape q) (op : Operator) (negated : Bool) {l r : Operand}
    (hl : l.Sound) (hr : r.Sound) (hp : strict → op = .jsonPathExists → r.isBound p l = false) :
    Agree (Alike target.dialect) strict (compare ⟨target, p⟩ op negated l r)
      (compare ⟨target, q⟩ op negated l r) := by
  have paths : ∀ t t', r.term ⟨target, p⟩ l = .ok t → r.term ⟨target, q⟩ l = .ok t' →
      op = .jsonPathExists → strict → ∀ u v, t = .value (.text u) → t' = .value (.text v) →
        u = v := by
    rintro _ _ ht ht' hop hst u v rfl rfl
    have hb := hp hst hop
    have hu : r = literal u := literal_of_term hb ht
    have hv : r = literal v := literal_of_term (isBound_eq h r l ▸ hb) ht'
    rw [hu] at hv
    cases hv
    rfl
  refine (agree_term h hl r).bind fun a b hab => ?_
  refine ((agree_term h hr l).strengthen paths).bind fun c e ⟨hce, hpath⟩ => ?_
  refine (Term.agree_checked hab).bind fun a b hab => ?_
  refine ((Term.agree_checked hce).strengthen (Q := fun x y => x = c ∧ y = e) fun x y hx hy =>
    ⟨Term.checked_eq_ok hx, Term.checked_eq_ok hy⟩).bind ?_
  rintro _ _ ⟨hce, rfl, rfl⟩
  exact Term.agree_compare op negated hab hce r.written hpath

theorem agree_flag (h : p.SameShape q) (negated : Bool) {o : Operand} (hs : o.Sound) :
    Agree (Alike target.dialect) strict (o.flag ⟨target, p⟩ negated)
      (o.flag ⟨target, q⟩ negated) := by
  refine (agree_term h hs null).bind fun t u ht => ?_
  have plain {t u : Term} (ht : Term.SameShape target.dialect t u) :
      Agree (Alike target.dialect) strict
      (do return Term.negatedIf ⟨target, p⟩ negated (← t.sql ⟨target, p⟩))
      (do return Term.negatedIf ⟨target, q⟩ negated (← u.sql ⟨target, q⟩)) :=
    (Term.agree_sql ht).bind fun _ _ hsql => .ok (.negatedIf negated hsql)
  cases ht with
  | null => exact .ok (Value.word_bit negated).alike
  | array h => exact .errors
  | column h => exact plain (.column h)
  | value h => exact plain (.value h)
  | malformed t => exact plain (.malformed t)

end Operand

namespace Expr

def Sound (e : Expr) : Prop := e.Formed Operand.Sound fun l r => l.Sound ∧ r.Sound

mutual

/-- A comparison takes a JSON path from a bound value. -/
def readsBoundPath (p : Parameters) : Expr → Bool
  | all items => anyReadsBoundPath p items
  | any items => anyReadsBoundPath p items
  | not e => e.readsBoundPath p
  | group e => e.readsBoundPath p
  | flag _ => false
  | compare l op r => op == .jsonPathExists && r.isBound p l

def anyReadsBoundPath (p : Parameters) : List Expr → Bool
  | [] => false
  | e :: es => e.readsBoundPath p || anyReadsBoundPath p es

end

mutual

theorem agree_sql (h : p.SameShape q) : ∀ {e : Expr}, e.Sound →
    (strict → e.readsBoundPath p = false) →
    Agree (Alike target.dialect) strict (e.sql ⟨target, p⟩) (e.sql ⟨target, q⟩)
  | all items, hs, hp => by
    rw [Sound, Formed] at hs
    refine (agree_sqlAll h hs.2.2 hp).map fun ts us ht => ?_
    exact .joined (.of_plain (by decide)) ht
  | any items, hs, hp => by
    rw [Sound, Formed] at hs
    refine (agree_sqlAll h hs.2.2 hp).map fun ts us ht => ?_
    exact .joined (.of_plain (by decide)) ht
  | group e, hs, hp => by
    rw [Sound, Formed] at hs
    exact (agree_sql h hs hp).map fun t u ht => .parens ht
  | flag o, hs, _ => Operand.agree_flag h false hs
  | compare l op r, hs, hp => by
    rw [Sound, Formed] at hs
    refine Operand.agree_compare h op false hs.1 hs.2 fun hst hop => ?_
    simpa [readsBoundPath, hop] using hp hst
  | not (flag o), hs, _ => by
    rw [Sound, Formed] at hs
    exact Operand.agree_flag h true hs.2
  | not (compare l op r), hs, hp => by
    rw [Sound, Formed, Formed] at hs
    refine Operand.agree_compare h op true hs.2.1 hs.2.2 fun hst hop => ?_
    simpa [readsBoundPath, hop] using hp hst
  | not (group e), hs, hp => by
    rw [Sound, Formed, Formed] at hs
    exact (agree_sql h hs.2 hp).map fun t u ht => .negate ht
  | not (all _), hs, _ => by
    rw [Sound, Formed] at hs
    cases hs.1
  | not (any _), hs, _ => by
    rw [Sound, Formed] at hs
    cases hs.1
  | not (not _), hs, _ => by
    rw [Sound, Formed] at hs
    cases hs.1

theorem agree_sqlAll (h : p.SameShape q) : ∀ {es : List Expr},
    FormedAll Operand.Sound (fun l r => l.Sound ∧ r.Sound) es →
    (strict → anyReadsBoundPath p es = false) →
    Agree (List.Forall₂ (Alike target.dialect)) strict (sqlAll ⟨target, p⟩ es)
      (sqlAll ⟨target, q⟩ es)
  | [], _, _ => .ok .nil
  | e :: es, hs, hp => by
    rw [FormedAll] at hs
    simp only [anyReadsBoundPath, Bool.or_eq_false_iff] at hp
    refine (agree_sql h hs.1 fun hst => (hp hst).1).bind fun t u ht => ?_
    exact (agree_sqlAll h hs.2 fun hst => (hp hst).2).bind fun ts us hts => .ok (.cons ht hts)

end

theorem sound_of_comparison {clip : Text} {l r l' r' : Operand} {op op' : Operator} (hl : l.Sound)
    (hr : r.Sound) (h : comparison clip l op r = .ok (compare l' op' r')) :
    l'.Sound ∧ r'.Sound := by
  unfold comparison at h
  split at h
  · cases h
  · split at h <;> cases h
    · exact ⟨hr, hl⟩
    · exact ⟨hl, hr⟩

end Expr

namespace Condition

def Sound (c : Condition) : Prop := ∀ e, c.expr = some e → e.Sound

def readsBoundPath (p : Parameters) (c : Condition) : Bool := c.expr.any (Expr.readsBoundPath p)

theorem sound_of_read {source : Text} {c : Condition} (h : read source = .ok c) : c.Sound := by
  intro e he
  refine Expr.formed_of_read (fun _ _ ho => Operand.sound_of_read ho) ?_ h he
  intro clip tl tr l op r l' op' r' hl hr hc
  exact Expr.sound_of_comparison (Operand.sound_of_read hl) (Operand.sound_of_read hr) hc

theorem agree_sql (h : p.SameShape q) {c : Condition} (hs : c.Sound)
    (hp : strict → c.readsBoundPath p = false) :
    Agree (Option.Rel (Alike target.dialect)) strict (c.sql ⟨target, p⟩) (c.sql ⟨target, q⟩) := by
  obtain ⟨source, expr⟩ := c
  cases expr with
  | none => exact .ok .none
  | some e => exact (Expr.agree_sql h (hs e rfl) hp).map fun t u ht => .some ht

end Condition

end QueryShorthand
