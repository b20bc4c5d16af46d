import QueryShorthand.Proofs.Condition.Faults
import QueryShorthand.Proofs.Condition.Refusal

/-! Arrays that are no JSON, and `?` without a column opposite: they can be read, but not become
SQL. -/
namespace QueryShorthand

namespace Operand

mutual

/-- The operand has the property, or one of its arguments at any depth. -/
def holds (p : Operand → Bool) : Operand → Bool
  | call name args => p (call name args) || holdsAny p args
  | o => p o

def holdsAny (p : Operand → Bool) : List Operand → Bool
  | [] => false
  | a :: as => a.holds p || holdsAny p as

end

/-- What cannot be an argument, or a truth value: an array that is no JSON, and `?`. -/
def isUnfit : Operand → Bool
  | malformedArray _ | auto => true
  | _ => false

/-- What cannot be compared with `other`; a column there allows for `?`. -/
def unfitSide : Operand → (other : Operand) → Bool
  | auto, other => other.column?.isNone
  | o, _ => o.holds isUnfit

variable {ctx : Context} {o l r other : Operand}

mutual

theorem fails_argument :
    ∀ o : Operand, o.holds isUnfit = true → Fails (o.term ctx null >>= Term.sql ctx)
  | auto => fun _ => (Fails.error _).bind
  | malformedArray _ => fun _ => .error _
  | call name args => fun h => ((fails_arguments args h).bind).bind
  | column _ | parameter _ | literal _ | array _ | null => fun h => by cases h

theorem fails_arguments :
    ∀ args : List Operand, holdsAny isUnfit args = true → Fails (argumentsSql ctx args)
  | [] => fun h => by cases h
  | a :: args => fun h => by
    rw [holdsAny, Bool.or_eq_true] at h
    rcases h with ha | hargs
    · exact fails_argumentsSql List.mem_cons_self (fails_argument a ha)
    · exact .behind _ fun _ _ => .behind _ fun _ _ => (fails_arguments args hargs).bind

end

theorem fails_flag (h : o.holds isUnfit = true) (negated : Bool) : Fails (o.flag ctx negated) := by
  cases o with
  | auto => exact (Fails.error _).bind
  | malformedArray t => exact .error _
  | call name args => exact (fails_arguments args h).bind.bind
  | column | parameter | literal | array | null => cases h

theorem fails_side (h : o.unfitSide other = true) : Fails (o.term ctx other >>= Term.checked) := by
  cases o with
  | auto =>
    have hnone : other.column? = none := by simpa [unfitSide] using h
    have hterm : auto.term ctx other = .error .looseAuto := by simp [term, hnone]
    rw [hterm]
    exact .error _
  | malformedArray t => exact .error _
  | call name args => exact (fails_arguments args h).bind.bind
  | column | parameter | literal | array | null => cases h

theorem fails_pair (op : Operator) (h : (l.unfitSide r || r.unfitSide l) = true) (negated : Bool) :
    Fails (compare ctx op negated l r) := by
  rw [Bool.or_eq_true] at h
  unfold compare
  rcases h with h | h
  · obtain ⟨err, herr⟩ : Fails (l.term ctx r >>= Term.checked) := fails_side h
    rcases error_or_exists_of_bind_eq_error herr with hl | ⟨t, ht, hc⟩
    · rw [hl]
      exact .error err
    · rw [ht]
      exact .behind (r.term ctx l) fun _ _ => Fails.bind ⟨err, hc⟩
  · obtain ⟨err, herr⟩ : Fails (r.term ctx l >>= Term.checked) := fails_side h
    apply Fails.behind
    intro _ _
    rcases error_or_exists_of_bind_eq_error herr with hr | ⟨t, ht, hc⟩
    · rw [hr]
      exact .error err
    · rw [ht]
      apply Fails.behind
      rintro _ ⟨⟩
      exact .behind _ fun _ _ => Fails.bind ⟨err, hc⟩

end Operand

namespace Expr

mutual

/-- Somewhere in the tree an operand stands where it cannot. -/
def unfit : Expr → Bool
  | flag o => o.holds Operand.isUnfit
  | compare l _ r => l.unfitSide r || r.unfitSide l
  | not e => e.unfit
  | group e => e.unfit
  | all items => unfitAny items
  | any items => unfitAny items

def unfitAny : List Expr → Bool
  | [] => false
  | e :: es => e.unfit || unfitAny es

end

mutual

theorem meets_of_unfit : ∀ e : Expr, e.unfit = true →
    e.Meets (fun o => o.holds Operand.isUnfit = true) fun l _ r =>
      (l.unfitSide r || r.unfitSide l) = true
  | flag o => fun h => .flag h
  | compare l op r => fun h => .compare h
  | not e => fun h => .not (meets_of_unfit e h)
  | group e => fun h => .group (meets_of_unfit e h)
  | all items => fun h => by
    obtain ⟨e, hm, he⟩ := exists_of_unfitAny items h
    exact .all hm he
  | any items => fun h => by
    obtain ⟨e, hm, he⟩ := exists_of_unfitAny items h
    exact .any hm he

theorem exists_of_unfitAny : ∀ items : List Expr, unfitAny items = true → ∃ e ∈ items,
    e.Meets (fun o => o.holds Operand.isUnfit = true) fun l _ r =>
      (l.unfitSide r || r.unfitSide l) = true
  | [] => fun h => by cases h
  | e :: items => fun h => by
    rw [unfitAny, Bool.or_eq_true] at h
    rcases h with he | hitems
    · exact ⟨e, List.mem_cons_self, meets_of_unfit e he⟩
    · obtain ⟨e', hm, he'⟩ := exists_of_unfitAny items hitems
      exact ⟨e', List.mem_cons_of_mem _ hm, he'⟩

end

theorem fails_of_unfit {ctx : Context} {e : Expr} (h : e.unfit = true) : Fails (e.sql ctx) := by
  refine (fails_of_meets ?_ ?_ (meets_of_unfit e h)).1
  · exact fun o ho negated => Operand.fails_flag ho negated
  · exact fun l op r hlr negated => Operand.fails_pair op hlr negated

end Expr

namespace Condition

/-- Reading a condition never fails for an array. One with an array that is no JSON anywhere in its
tree, or a `?` that is not compared with a column, is refused for every target and whatever is
bound. -/
theorem refused_of_unfit (source : Text) :
    (∀ err, read source = .error err → err.isArray = false) ∧
    ∀ c e, read source = .ok c → c.expr = some e → e.unfit = true →
      ∀ ctx, ∃ err, c.sql ctx = .error err := by
  constructor
  · intro err h
    exact Error.not_isArray_of_isForm (onlyForm_read source err h)
  · intro c e _ he h ctx
    obtain ⟨err, herr⟩ : Fails (e.sql ctx) := Expr.fails_of_unfit h
    refine ⟨err, ?_⟩
    rw [sql, he]
    change (e.sql ctx).map some = _
    rw [herr]
    rfl

theorem refused_of_unfit_nested :
    (∃ err, read "?=?".toList = .error err ∧ err.isArray = false) ∧
    ∃ c e, read "a=?,!(x|=f(b,g([1 2]))|y>1)".toList = .ok c ∧ c.expr = some e ∧ e.unfit = true ∧
      ∃ err, c.sql {} = .error err := by
  have hread : (read "a=?,!(x|=f(b,g([1 2]))|y>1)".toList).map (fun c => c.expr.map Expr.unfit) =
      .ok (some true) := by decide +kernel
  obtain ⟨c, hc, hunfit⟩ := exists_of_map_eq_ok hread
  obtain ⟨e, he, h⟩ := Option.map_eq_some_iff.1 hunfit
  have hfails : (read "?=?".toList).map source = .error (.doubleAuto "?=?".toList) := by
    decide +kernel
  have herr := eq_error_of_map_eq_error hfails
  exact ⟨⟨_, herr, (refused_of_unfit _).1 _ herr⟩, c, e, hc, he, h,
    (refused_of_unfit _).2 c e hc he h {}⟩

end Condition

end QueryShorthand
