import QueryShorthand.Condition.Compile
import QueryShorthand.Proofs.Condition.Items

/-! Conditions put together from texts, by combinators or by parentheses. -/
namespace QueryShorthand

variable {ctx : Context} {e f : Expr} {es fs : List Expr.Item}

namespace Expr

def connective (s : Option Text) : Text :=
  if s = some ['|'] then " OR ".toList else " AND ".toList

/-- The SQL of items that follow others, each behind its connective. -/
def furtherSql (ctx : Context) : List Item → Except Error Text
  | [] => return []
  | (s, e) :: es => do
    let t ← e.sql ctx
    let u ← furtherSql ctx es
    return connective s ++ t ++ u

def joinedSql (ctx : Context) (separator : Text) (es : List Expr) : Compiled :=
  (sqlAll ctx es).map (Text.joined separator)

variable {separator : Text} {items : List Expr}

theorem joinedSql_singleton : joinedSql ctx separator [e] = e.sql ctx := by
  rw [joinedSql, sqlAll, sqlAll]
  cases e.sql ctx with
  | error err => rfl
  | ok t => simp [bind, Except.bind, pure, Except.pure, Except.map, Text.joined]

theorem joinedSql_cons (h : items ≠ []) : joinedSql ctx separator (e :: items) = (do
    let t ← e.sql ctx
    let u ← joinedSql ctx separator items
    return t ++ separator ++ u) := by
  obtain ⟨f, fs, rfl⟩ := List.exists_cons_of_ne_nil h
  simp only [joinedSql, sqlAll]
  cases e.sql ctx with
  | error err => rfl
  | ok t =>
    cases f.sql ctx with
    | error err => rfl
    | ok u =>
      cases sqlAll ctx fs with
      | error err => rfl
      | ok us => simp [bind, Except.bind, pure, Except.pure, Except.map, Text.joined,
          List.intercalate_cons_cons]

theorem sql_collapsed_all : (collapsed all items).sql ctx = joinedSql ctx " AND ".toList items := by
  rcases items with _ | ⟨e, _ | ⟨f, items⟩⟩
  · rfl
  · exact joinedSql_singleton.symm
  · rw [collapsed, sql, joinedSql]
    simp

theorem sql_collapsed_any : (collapsed any items).sql ctx = joinedSql ctx " OR ".toList items := by
  rcases items with _ | ⟨e, _ | ⟨f, items⟩⟩
  · rfl
  · exact joinedSql_singleton.symm
  · rw [collapsed, sql, joinedSql]
    simp

theorem joinedSql_alternatives {t : List Expr} {ts : List (List Expr)} (ht : t ≠ []) :
    joinedSql ctx " OR ".toList (((e :: t) :: ts).map (collapsed all)) = (do
      let u ← e.sql ctx
      let v ← joinedSql ctx " OR ".toList ((t :: ts).map (collapsed all))
      return u ++ " AND ".toList ++ v) := by
  have hconj : (collapsed all (e :: t)).sql ctx = (do
      let u ← e.sql ctx
      let v ← (collapsed all t).sql ctx
      return u ++ " AND ".toList ++ v) := by
    rw [sql_collapsed_all, sql_collapsed_all, joinedSql_cons ht]
  rcases ts with _ | ⟨t', ts⟩
  · rw [List.map_singleton, List.map_singleton, joinedSql_singleton, joinedSql_singleton, hconj]
  · have hne : (t' :: ts).map (collapsed all) ≠ [] := by simp
    have hcons (e : Expr) : joinedSql ctx " OR ".toList (e :: (t' :: ts).map (collapsed all)) = (do
        let u ← e.sql ctx
        let v ← joinedSql ctx " OR ".toList ((t' :: ts).map (collapsed all))
        return u ++ " OR ".toList ++ v) := joinedSql_cons hne
    change joinedSql ctx " OR ".toList (_ :: (t' :: ts).map (collapsed all)) = (do
      let u ← e.sql ctx
      let v ← joinedSql ctx " OR ".toList (_ :: (t' :: ts).map (collapsed all))
      return u ++ " AND ".toList ++ v)
    rw [hcons, hcons, hconj]
    simp only [bind_assoc, pure_bind, List.append_assoc]

theorem sql_ofItems : (Condition.ofItems e es).sql ctx = (do
    let t ← e.sql ctx
    let u ← furtherSql ctx es
    return t ++ u) := by
  have general (b : Option Text) :
      joinedSql ctx " OR ".toList ((alternatives ((b, e) :: es)).map (collapsed all)) = (do
        let t ← e.sql ctx
        let u ← furtherSql ctx es
        return t ++ u) := by
    induction es generalizing e b with
    | nil =>
      rw [alternatives_singleton, List.map_singleton, joinedSql_singleton]
      simp only [furtherSql, collapsed, pure_bind, List.append_nil, bind_pure]
    | cons x es ih =>
      obtain ⟨s, f⟩ := x
      rw [furtherSql]
      by_cases hs : s = some ['|']
      · subst hs
        have hne : (alternatives ((some ['|'], f) :: es)).map (collapsed all) ≠ [] := by
          obtain ⟨t, ts, h⟩ := exists_alternatives f es
          simp [h]
        rw [alternatives_or, List.map_cons, joinedSql_cons hne, ih]
        simp only [collapsed, connective, if_true, bind_assoc, pure_bind, List.append_assoc]
      · obtain ⟨t, ts, h⟩ := exists_alternatives f es
        have ih := ih (e := f) s
        rw [h] at ih
        rw [alternatives_and hs (h s), joinedSql_alternatives (by simp), ih]
        simp only [connective, if_neg hs, bind_assoc, pure_bind, List.append_assoc]
  rw [Condition.ofItems, sql_collapsed_any, general]

theorem furtherSql_append : furtherSql ctx (es ++ fs) = (do
    let t ← furtherSql ctx es
    let u ← furtherSql ctx fs
    return t ++ u) := by
  induction es with
  | nil => simp only [furtherSql, pure_bind, List.nil_append, bind_pure]
  | cons x es ih =>
    obtain ⟨s, e⟩ := x
    rw [List.cons_append, furtherSql, furtherSql, ih]
    simp only [bind_assoc, pure_bind, List.append_assoc]

theorem sql_ofItems_joined {s : Option Text} :
    (Condition.ofItems e (es ++ (s, f) :: fs)).sql ctx = (do
      let t ← (Condition.ofItems e es).sql ctx
      let u ← (Condition.ofItems f fs).sql ctx
      return t ++ connective s ++ u) := by
  rw [sql_ofItems, sql_ofItems, sql_ofItems, furtherSql_append, furtherSql]
  simp only [bind_assoc, pure_bind, List.append_assoc]

end Expr

namespace Condition

/-- The SQL of `c` is that of `c₁` and `c₂` with the connective between them; it has none where one
of them has none. -/
structure Joins (connective : Text) (c₁ c₂ c : Condition) : Prop where
  nonempty : c.isEmpty = false
  sql : ∀ (ctx : Context) (t u : Text), c₁.sql ctx = .ok (some t) → c₂.sql ctx = .ok (some u) →
    c.sql ctx = .ok (some (t ++ connective ++ u))
  fails : ∀ (ctx : Context) (err : Error), c₁.sql ctx = .error err ∨ c₂.sql ctx = .error err →
    ∃ err', c.sql ctx = .error err'

/-- The SQL of `c` is made of that of `c₁` alone; it has none where `c₁` has none. -/
structure Wraps (wrap : Dialect → Text → Text) (c₁ c : Condition) : Prop where
  nonempty : c.isEmpty = false
  sql : ∀ (ctx : Context) (t : Text), c₁.sql ctx = .ok (some t) →
    c.sql ctx = .ok (some (wrap ctx.dialect t))
  fails : ∀ (ctx : Context) (err : Error), c₁.sql ctx = .error err → ∃ err', c.sql ctx = .error err'

variable {c₁ c₂ : Condition} {s s₁ s₂ : Text} {t : Text}

theorem sql_eq_ok_iff (he : c₁.expr = some e) : c₁.sql ctx = .ok (some t) ↔ e.sql ctx = .ok t := by
  simp only [sql, he]
  cases e.sql ctx with
  | error err => simp [Except.map]
  | ok u => simp [Except.map]

theorem sql_eq_error_iff {err : Error} (he : c₁.expr = some e) :
    c₁.sql ctx = .error err ↔ e.sql ctx = .error err := by
  simp only [sql, he]
  cases e.sql ctx with
  | error err => simp [Except.map]
  | ok u => simp [Except.map]

theorem exists_expr (h : c₁.isEmpty = false) : ∃ e, c₁.expr = some e := by
  obtain ⟨source, expr⟩ := c₁
  cases expr with
  | none => cases h
  | some e => exact ⟨e, rfl⟩

theorem isEmpty_of_sql (h : c₁.sql ctx = .ok (some t)) : c₁.isEmpty = false := by
  obtain ⟨source, expr⟩ := c₁
  cases expr with
  | none => cases h
  | some e => rfl

theorem joins_of_items {c : Char} (h₁ : Items s₁ e es) (h₂ : Items s₂ f fs)
    (e₁ : c₁.expr = some (ofItems e es)) (e₂ : c₂.expr = some (ofItems f fs))
    (hc : c = ',' ∨ c = '|') : ∃ whole, read (s₁ ++ c :: s₂) = .ok whole ∧
      Joins (Expr.connective (some [c])) c₁ c₂ whole := by
  refine ⟨_, (h₁.joined h₂ hc h₂.head?_ne).read, rfl, ?_, ?_⟩
  · intro ctx t u ht hu
    rw [sql_eq_ok_iff e₁] at ht
    rw [sql_eq_ok_iff e₂] at hu
    rw [sql_eq_ok_iff rfl, Expr.sql_ofItems_joined, ht, hu]
    rfl
  · intro ctx err h
    rw [sql_eq_error_iff e₁, sql_eq_error_iff e₂] at h
    have herr : ∃ err', (ofItems e (es ++ (some [c], f) :: fs)).sql ctx = .error err' := by
      rw [Expr.sql_ofItems_joined]
      cases ht : (ofItems e es).sql ctx with
      | error err' => exact ⟨err', rfl⟩
      | ok t =>
        rcases h with h | h
        · rw [ht] at h
          cases h
        · rw [h]
          exact ⟨err, rfl⟩
    obtain ⟨err', herr⟩ := herr
    exact ⟨err', (sql_eq_error_iff rfl).2 herr⟩

theorem wraps_of_sql {wrap : Dialect → Text → Text} (e₁ : c₁.expr = some e)
    (h : ∀ ctx : Context, f.sql ctx = (e.sql ctx).map (wrap ctx.dialect)) :
    Wraps wrap c₁ ⟨s, some f⟩ := by
  refine ⟨rfl, ?_, ?_⟩
  · intro ctx t ht
    rw [sql_eq_ok_iff e₁] at ht
    rw [sql_eq_ok_iff rfl, h, ht]
    rfl
  · intro ctx err ht
    rw [sql_eq_error_iff e₁] at ht
    refine ⟨err, (sql_eq_error_iff rfl).2 ?_⟩
    rw [h, ht]
    rfl

theorem sql_of_composition (h₁ : read s₁ = .ok c₁) (h₂ : read s₂ = .ok c₂)
    (n₁ : c₁.isEmpty = false) (n₂ : c₂.isEmpty = false) :
    (∃ c, read (s₁ ++ '|' :: s₂) = .ok c ∧ Joins " OR ".toList c₁ c₂ c) ∧
      (∃ c, read (s₁ ++ ',' :: s₂) = .ok c ∧ Joins " AND ".toList c₁ c₂ c) ∧
      (∃ c, read ('(' :: (s₁ ++ [')'])) = .ok c ∧ Wraps (fun _ t => '(' :: (t ++ [')'])) c₁ c) ∧
      ∃ c, read ('!' :: '(' :: (s₁ ++ [')'])) = .ok c ∧ Wraps Dialect.negate c₁ c := by
  obtain ⟨e₁, he₁⟩ := exists_expr n₁
  obtain ⟨e₂, he₂⟩ := exists_expr n₂
  obtain ⟨e, es, i₁, rfl⟩ := exists_items_of_read h₁ he₁
  obtain ⟨f, fs, i₂, rfl⟩ := exists_items_of_read h₂ he₂
  refine ⟨?_, ?_, ?_, ?_⟩
  · exact joins_of_items i₁ i₂ he₁ he₂ (.inr rfl)
  · exact joins_of_items i₁ i₂ he₁ he₂ (.inl rfl)
  · refine ⟨_, i₁.group.read, wraps_of_sql he₁ fun ctx => ?_⟩
    rfl
  · refine ⟨_, i₁.negatedGroup.read, wraps_of_sql he₁ fun ctx => ?_⟩
    rfl

theorem sql_of_composition_or :
    ∃ c₁ c₂ c, read "a=1|b".toList = .ok c₁ ∧ read " c,!d".toList = .ok c₂ ∧
    c₁.isEmpty = false ∧ c₂.isEmpty = false ∧ read "a=1|b, c,!d".toList = .ok c ∧
    c.sql {} = .ok (some "`a` = '1' OR `b` AND `c` AND !(`d`)".toList) := by
  have hsql₁ :
      (read "a=1|b".toList >>= fun c => c.sql {}) = .ok (some "`a` = '1' OR `b`".toList) := by
    decide +kernel
  have hsql₂ :
      (read " c,!d".toList >>= fun c => c.sql {}) = .ok (some "`c` AND !(`d`)".toList) := by
    decide +kernel
  obtain ⟨c₁, h₁, ht₁⟩ := exists_of_bind_eq_ok hsql₁
  obtain ⟨c₂, h₂, ht₂⟩ := exists_of_bind_eq_ok hsql₂
  have n₁ := isEmpty_of_sql ht₁
  have n₂ := isEmpty_of_sql ht₂
  obtain ⟨-, ⟨c, hc, hj⟩, -⟩ := sql_of_composition h₁ h₂ n₁ n₂
  exact ⟨c₁, c₂, c, h₁, h₂, n₁, n₂, hc, hj.sql {} _ _ ht₁ ht₂⟩

end Condition

end QueryShorthand
