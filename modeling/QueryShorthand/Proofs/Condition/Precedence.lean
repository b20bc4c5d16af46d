import QueryShorthand.Proofs.Condition.Phrase

/-! SQL under its own precedence, where AND binds closer than OR, gives back the parts that a
condition was compiled from. -/
namespace QueryShorthand

open Sql (Phrase Word Uncut)

variable {ctx : Context}

namespace Operand

theorem closed_term (hf : ctx.params.Flat) {o other : Operand} (hs : o.Sound) {t : Term}
    (h : o.term ctx other = .ok t) : t.Closed ctx.dialect := by
  cases o with
  | column c =>
    cases h
    exact c.word_sql
  | call name args =>
    rw [Sound] at hs
    rw [term] at h
    obtain ⟨ts, hts, h⟩ := exists_of_bind_eq_ok h
    cases h
    have agree : Agree (List.Forall₂ (Sql.Alike ctx.dialect)) False (argumentsSql ctx args)
        (argumentsSql ctx args) := agree_argumentsSql hf.sameShape hs.2
    exact .call hs.1 (.list (agree.related hts hts))
  | parameter name => exact Term.closed_bound hf h
  | literal u =>
    cases h
    exact rfl
  | array values =>
    cases h
    exact hs
  | malformedArray u =>
    cases h
    trivial
  | null =>
    cases h
    trivial
  | auto =>
    rw [term] at h
    split at h
    · exact Term.closed_bound hf h
    · cases h

theorem phrase_compare (hf : ctx.params.Flat) {op : Operator} {negated : Bool} {l r : Operand}
    (hl : l.Sound) (hr : r.Sound) {s : Text} (h : compare ctx op negated l r = .ok s) :
    Phrase ctx.dialect s := by
  obtain ⟨a, ha, h⟩ := exists_of_bind_eq_ok h
  obtain ⟨b, hb, h⟩ := exists_of_bind_eq_ok h
  obtain ⟨a', ha', h⟩ := exists_of_bind_eq_ok h
  obtain ⟨b', hb', h⟩ := exists_of_bind_eq_ok h
  exact Term.phrase_compare (Term.closed_of_checked (closed_term hf hl ha) ha')
    (Term.closed_of_checked (closed_term hf hr hb) hb') h

theorem phrase_flag (hf : ctx.params.Flat) {negated : Bool} {o : Operand} (hs : o.Sound) {s : Text}
    (h : o.flag ctx negated = .ok s) : Phrase ctx.dialect s := by
  obtain ⟨t, ht, h⟩ := exists_of_bind_eq_ok h
  have closed := closed_term hf hs ht
  split at h
  · cases h
    exact .word (Value.word_bit negated)
  · cases h
  · obtain ⟨u, hu, h⟩ := exists_of_bind_eq_ok h
    cases h
    exact .negatedIf negated (.word (Term.word_sql closed hu))

end Operand

namespace Expr

def terms : Expr → List Expr
  | any items => items
  | e => [e]

def clips : Expr → List Expr
  | all items => items
  | e => [e]

mutual

/-- Cut at each OR of its top level, `t` gives the SQL of the terms of `e` in order, each of which
reads as its term. -/
inductive Reads (ctx : Context) : Expr → Text → Prop where
  | mk {e : Expr} {t : Text} {ts : List Text} (hsql : sqlAll ctx e.terms = .ok ts)
      (hcut : Sql.split ctx.dialect .or t = ts) (h : List.Forall₂ (ReadsTerm ctx) e.terms ts) :
      Reads ctx e t

/-- Cut at each AND of its top level, `t` gives the SQL of the clips of `e` in order, each of which
reads as its clip. -/
inductive ReadsTerm (ctx : Context) : Expr → Text → Prop where
  | mk {e : Expr} {t : Text} {ts : List Text} (hsql : sqlAll ctx e.clips = .ok ts)
      (hcut : Sql.split ctx.dialect .and t = ts) (h : List.Forall₂ (ReadsClip ctx) e.clips ts) :
      ReadsTerm ctx e t

/-- A group reads again between its parentheses; any other clip has no structure of its own. -/
inductive ReadsClip (ctx : Context) : Expr → Text → Prop where
  | group {e : Expr} {t : Text} (h : Reads ctx e t) : ReadsClip ctx (group e) ('(' :: (t ++ [')']))
  | negatedGroup {e : Expr} {t : Text} (h : Reads ctx e t) :
      ReadsClip ctx (not (group e)) (ctx.dialect.negate t)
  | flag {o : Operand} {t : Text} : ReadsClip ctx (flag o) t
  | negatedFlag {o : Operand} {t : Text} : ReadsClip ctx (not (flag o)) t
  | compare {l r : Operand} {op : Operator} {t : Text} : ReadsClip ctx (compare l op r) t
  | negatedCompare {l r : Operand} {op : Operator} {t : Text} :
      ReadsClip ctx (not (compare l op r)) t

end

theorem sqlAll_singleton {e : Expr} {t : Text} (h : e.sql ctx = .ok t) :
    sqlAll ctx [e] = .ok [t] := by
  rw [sqlAll, h]
  rfl

theorem terms_of_isTerm {e : Expr} (h : e.isTerm = true) : e.terms = [e] := by
  cases e <;> first | rfl | cases h

theorem clips_of_isClip {e : Expr} (h : e.isClip = true) : e.clips = [e] := by
  cases e <;> first | rfl | cases h

/-- What compiling `e` to `t` has kept, as an expression, as a term and as a clip. -/
structure Kept (ctx : Context) (e : Expr) (t : Text) : Prop where
  reads : Reads ctx e t
  term : e.isTerm = true → ReadsTerm ctx e t ∧ Uncut .or ctx.dialect t
  clip : e.isClip = true → ReadsClip ctx e t ∧ ∀ k, Uncut k ctx.dialect t

theorem Kept.of_term {e : Expr} {t : Text} (he : e.isTerm = true) (hsql : e.sql ctx = .ok t)
    (h : ReadsTerm ctx e t) (hu : Uncut .or ctx.dialect t)
    (hc : e.isClip = true → ReadsClip ctx e t ∧ ∀ k, Uncut k ctx.dialect t) : Kept ctx e t := by
  refine ⟨?_, fun _ => ⟨h, hu⟩, hc⟩
  have hterms := terms_of_isTerm he
  have hsqlAll : sqlAll ctx e.terms = .ok [t] := by rw [hterms, sqlAll_singleton hsql]
  refine .mk hsqlAll (Sql.split_of_uncut hu) ?_
  rw [hterms]
  exact .cons h .nil

theorem Kept.of_clip {e : Expr} {t : Text} (he : e.isClip = true) (hsql : e.sql ctx = .ok t)
    (h : ReadsClip ctx e t) (hu : ∀ k, Uncut k ctx.dialect t) : Kept ctx e t := by
  have hclips := clips_of_isClip he
  refine .of_term (isTerm_of_isClip he) hsql ?_ (hu .or) fun _ => ⟨h, hu⟩
  have hsqlAll : sqlAll ctx e.clips = .ok [t] := by rw [hclips, sqlAll_singleton hsql]
  refine .mk hsqlAll (Sql.split_of_uncut (hu .and)) ?_
  rw [hclips]
  exact .cons h .nil

theorem Kept.of_phrase {e : Expr} {t : Text} (he : e.isClip = true) (hsql : e.sql ctx = .ok t)
    (h : ReadsClip ctx e t) (hp : Phrase ctx.dialect t) : Kept ctx e t :=
  .of_clip he hsql h fun _ => hp.uncut

theorem forall_mem_right {R : Expr → Text → Prop} {P : Text → Prop} {es : List Expr}
    {ts : List Text} (h : List.Forall₂ R es ts) (hp : ∀ e t, R e t → P t) : ∀ t ∈ ts, P t := by
  induction h with
  | nil => simp
  | cons hr _ ih => exact List.forall_mem_cons.2 ⟨hp _ _ hr, ih⟩

theorem Kept.all {items : List Expr} {ts : List Text} (hne : ts ≠ [])
    (hclip : ∀ e ∈ items, e.isClip = true) (hsql : sqlAll ctx items = .ok ts)
    (h : List.Forall₂ (Kept ctx) items ts) :
    Kept ctx (.all items) (Text.joined " AND ".toList ts) := by
  have clips : List.Forall₂ (fun e t => ReadsClip ctx e t ∧ ∀ k, Uncut k ctx.dialect t) items ts :=
    ((List.forall₂_and_left items ts).2 ⟨hclip, h⟩).imp fun e t he => he.2.clip he.1
  have uncut (k : Sql.Connective) : ∀ t ∈ ts, Uncut k ctx.dialect t :=
    forall_mem_right clips fun _ _ hc => hc.2 k
  refine .of_term rfl ?_ (.mk hsql ?_ (clips.imp fun _ _ hc => hc.1)) ?_ (by simp [isClip])
  · rw [sql, hsql]
    rfl
  · exact Sql.split_joined hne (uncut .and)
  · exact Sql.uncut_joined_and hne (uncut .or)

theorem Kept.any {items : List Expr} {ts : List Text} (hne : ts ≠ [])
    (hterm : ∀ e ∈ items, e.isTerm = true) (hsql : sqlAll ctx items = .ok ts)
    (h : List.Forall₂ (Kept ctx) items ts) :
    Kept ctx (.any items) (Text.joined " OR ".toList ts) := by
  have terms : List.Forall₂ (fun e t => ReadsTerm ctx e t ∧ Uncut .or ctx.dialect t) items ts :=
    ((List.forall₂_and_left items ts).2 ⟨hterm, h⟩).imp fun e t he => he.2.term he.1
  have uncut : ∀ t ∈ ts, Uncut .or ctx.dialect t := forall_mem_right terms fun _ _ ht => ht.2
  refine ⟨.mk hsql ?_ (terms.imp fun _ _ ht => ht.1), by simp [isTerm], by simp [isClip]⟩
  exact Sql.split_joined hne uncut

theorem ne_nil_of_kept {items : List Expr} {ts : List Text} (h : List.Forall₂ (Kept ctx) items ts)
    (hl : 2 ≤ items.length) : ts ≠ [] := by
  rintro rfl
  cases h
  simp at hl

theorem alike_of_sql (hf : ctx.params.Flat) {e : Expr} (hs : e.Sound) {t : Text}
    (h : e.sql ctx = .ok t) : Sql.Alike ctx.dialect t t := by
  have agree : Agree (Sql.Alike ctx.dialect) False (e.sql ctx) (e.sql ctx) :=
    agree_sql hf.sameShape hs False.elim
  exact agree.related h h

mutual

theorem kept_of_sql (hf : ctx.params.Flat) : ∀ {e : Expr} {t : Text}, e.Sound → e.sql ctx = .ok t →
    Kept ctx e t
  | all items, _, hs, h => by
    rw [Sound, Formed] at hs
    obtain ⟨ts, hts, rfl⟩ := exists_of_map_eq_ok h
    have h := kept_of_sqlAll hf hs.2.2 hts
    exact .all (ne_nil_of_kept h hs.1) (List.all_eq_true.1 hs.2.1) hts h
  | any items, _, hs, h => by
    rw [Sound, Formed] at hs
    obtain ⟨ts, hts, rfl⟩ := exists_of_map_eq_ok h
    have h := kept_of_sqlAll hf hs.2.2 hts
    exact .any (ne_nil_of_kept h hs.1) (List.all_eq_true.1 hs.2.1) hts h
  | group e, _, hs, h => by
    rw [Sound, Formed] at hs
    obtain ⟨t, ht, rfl⟩ := exists_of_map_eq_ok h
    have parens : Word ctx.dialect ('(' :: (t ++ [')'])) :=
      .of_compact (.parens (alike_of_sql hf hs ht)) List.mem_cons_self (by decide)
    exact .of_phrase rfl h (.group (kept_of_sql hf hs ht).reads) (.word parens)
  | flag o, t, hs, h => .of_phrase rfl h .flag (Operand.phrase_flag hf hs h)
  | compare l op r, t, hs, h => by
    rw [Sound, Formed] at hs
    exact .of_phrase rfl h .compare (Operand.phrase_compare hf hs.1 hs.2 h)
  | not (flag o), t, hs, h => by
    rw [Sound, Formed] at hs
    exact .of_phrase rfl h .negatedFlag (Operand.phrase_flag hf hs.2 h)
  | not (compare l op r), t, hs, h => by
    rw [Sound, Formed, Formed] at hs
    exact .of_phrase rfl h .negatedCompare (Operand.phrase_compare hf hs.2.1 hs.2.2 h)
  | not (group e), _, hs, h => by
    rw [Sound, Formed, Formed] at hs
    obtain ⟨t, ht, rfl⟩ := exists_of_map_eq_ok h
    exact .of_phrase rfl h (.negatedGroup (kept_of_sql hf hs.2 ht).reads)
      (.negate (alike_of_sql hf hs.2 ht))
  | not (all _), _, hs, _ => by
    rw [Sound, Formed] at hs
    cases hs.1
  | not (any _), _, hs, _ => by
    rw [Sound, Formed] at hs
    cases hs.1
  | not (not _), _, hs, _ => by
    rw [Sound, Formed] at hs
    cases hs.1

theorem kept_of_sqlAll (hf : ctx.params.Flat) : ∀ {es : List Expr} {ts : List Text},
    FormedAll Operand.Sound (fun l r => l.Sound ∧ r.Sound) es → sqlAll ctx es = .ok ts →
    List.Forall₂ (Kept ctx) es ts
  | [], _, _, h => by
    cases h
    exact .nil
  | e :: es, _, hs, h => by
    rw [FormedAll] at hs
    obtain ⟨t, ht, h⟩ := exists_of_bind_eq_ok h
    obtain ⟨ts, hts, h⟩ := exists_of_bind_eq_ok h
    cases h
    exact .cons (kept_of_sql hf hs.1 ht) (kept_of_sqlAll hf hs.2 hts)

end

end Expr

theorem Condition.reads_of_sql (hf : ctx.params.Flat) {source t : Text} {c : Condition}
    (hc : read source = .ok c) (ht : c.sql ctx = .ok (some t)) :
    ∃ e, c.expr = some e ∧ Expr.Reads ctx e t := by
  obtain ⟨source', expr⟩ := c
  cases expr with
  | none => cases ht
  | some e =>
    obtain ⟨u, hu, hut⟩ := exists_of_map_eq_ok ht
    cases hut
    exact ⟨e, rfl, (Expr.kept_of_sql hf (sound_of_read hc e rfl) hu).reads⟩

theorem Condition.reads_of_sql_between : ∃ c t, read "a=1,b><[1,2]|!(c,'x|'|d)".toList = .ok c ∧
    t = "`a` = '1' AND `b` BETWEEN 1 AND 2 OR !(`c` AND 'x|' OR `d`)".toList ∧
    c.sql {} = .ok (some t) ∧ ∃ e, c.expr = some e ∧ Expr.Reads {} e t := by
  have flat : ({} : Context).params.Flat := fun name v h => by cases h
  have hsql : (read "a=1,b><[1,2]|!(c,'x|'|d)".toList >>= fun c => c.sql {}) =
      .ok (some "`a` = '1' AND `b` BETWEEN 1 AND 2 OR !(`c` AND 'x|' OR `d`)".toList) := by
    decide +kernel
  obtain ⟨c, hc, ht⟩ := exists_of_bind_eq_ok hsql
  exact ⟨c, _, hc, rfl, ht, reads_of_sql flat hc ht⟩
end QueryShorthand
