import QueryShorthand.Proofs.Condition.Negation
import QueryShorthand.Proofs.Sql.Literal
import Mathlib.Data.List.Infix

/-! Patterns of LIKE, decoded as the databases decode them. -/
namespace QueryShorthand

open Term (escapePattern wildcards)

namespace Sql

inductive Part where
  | run
  | one
  | char (c : Char)

def part (c : Char) : Part :=
  if c = '%' then .run else if c = '_' then .one else .char c

/-- The parts of a pattern; the character behind an escape stands for itself. -/
def parts? (escape : Option Char) : Text → Option (List Part)
  | [] => some []
  | [c] => if escape = some c then none else some [part c]
  | c :: d :: r =>
    if escape = some c then (parts? escape r).map fun ps => .char d :: ps
    else (parts? escape (d :: r)).map fun ps => part c :: ps

def accepts : List Part → Text → Bool
  | [], s => s.isEmpty
  | .run :: ps, s => s.tails.any (accepts ps)
  | .one :: ps, s =>
    match s with
    | [] => false
    | _ :: s => accepts ps s
  | .char c :: ps, s =>
    match s with
    | [] => false
    | x :: s => x == c && accepts ps s

def defaultEscape : Dialect → Option Char
  | .sqlite => none
  | _ => some '\\'

/-- What stands behind LIKE as a database decodes it: a literal and, for another escape than the
default, the clause that names it. -/
def pattern? (d : Dialect) (sql : Text) : Option (List Part) :=
  match literal? d sql with
  | some (p, []) => parts? (defaultEscape d) p
  | some (p, clause) =>
    match (Text.after? " ESCAPE ".toList clause).bind (literal? d) with
    | some ([c], []) => parts? (some c) p
    | _ => none
  | none => none

variable {p s t : Text} {ps : List Part}

theorem pattern?_quoteText (d : Dialect) :
    pattern? d (d.quoteText p ++ d.escapeClause) = parts? (some '\\') p := by
  have hclause : d.escapeClause.head? ≠ some '\'' := by cases d <;> decide
  rw [pattern?, literal?_quoteText hclause]
  cases d <;> rfl

theorem parts?_escaped {c : Char} (h : parts? (some '\\') p = some ps) :
    parts? (some '\\') ('\\' :: c :: p) = some (.char c :: ps) := by
  rw [parts?, if_pos rfl, h]
  rfl

theorem parts?_unescaped {c : Char} (hc : c ≠ '\\') (h : parts? (some '\\') p = some ps) :
    parts? (some '\\') (c :: p) = some (part c :: ps) := by
  have hescape : some '\\' ≠ some c := by simpa using hc.symm
  cases p with
  | nil =>
    obtain rfl : [] = ps := Option.some.inj h
    rw [parts?, if_neg hescape]
  | cons d p =>
    rw [parts?, if_neg hescape, h]
    rfl

theorem parts?_escapePattern (h : parts? (some '\\') p = some ps) :
    parts? (some '\\') (escapePattern t ++ p) = some (t.map .char ++ ps) := by
  induction t with
  | nil => exact h
  | cons c t ih =>
    rw [escapePattern]
    split
    · exact parts?_escaped ih
    · next hc =>
      obtain ⟨hescape, hrun, hone⟩ : c ≠ '\\' ∧ c ≠ '%' ∧ c ≠ '_' := by simpa using hc
      have hpart : part c = .char c := by rw [part, if_neg hrun, if_neg hone]
      have hparts := parts?_unescaped hescape ih
      rwa [hpart] at hparts

theorem accepts_run : accepts (.run :: ps) s = true ↔ ∃ v, v <:+ s ∧ accepts ps v = true := by
  rw [accepts, List.any_eq_true]
  exact exists_congr fun v => and_congr_left fun _ => List.mem_tails v s

theorem accepts_chars :
    accepts (t.map .char ++ ps) s = true ↔ ∃ v, s = t ++ v ∧ accepts ps v = true := by
  induction t generalizing s with
  | nil => simp
  | cons c t ih =>
    cases s with
    | nil => simp [accepts]
    | cons x s => simp [accepts, ih, and_assoc]

theorem accepts_nil : accepts [] s = true ↔ s = [] := List.isEmpty_iff

theorem accepts_rest : accepts [.run] s = true :=
  accepts_run.2 ⟨[], List.nil_suffix, rfl⟩

end Sql

open Sql (Predicate parts? accepts)

def Operator.Finds : Operator → (t s : Text) → Prop
  | contains, t, s => t <:+: s
  | startsWith, t, s => t <+: s
  | endsWith, t, s => t <:+ s
  | _, _, _ => False

namespace Term

variable {ctx : Context} {op : Operator} {t : Text}

theorem finds_contains (t : Text) : ∃ ps, parts? (some '\\') (patternOf .contains t) = some ps ∧
    ∀ s, accepts ps s = true ↔ t <:+: s := by
  refine ⟨.run :: (t.map .char ++ [.run]), Sql.parts?_unescaped (by decide)
    (Sql.parts?_escapePattern rfl), ?_⟩
  intro s
  rw [Sql.accepts_run]
  constructor
  · rintro ⟨_, ⟨u, rfl⟩, hrest⟩
    obtain ⟨v, rfl, -⟩ := Sql.accepts_chars.1 hrest
    exact ⟨u, v, List.append_assoc u t v⟩
  · rintro ⟨u, v, rfl⟩
    exact ⟨t ++ v, ⟨u, (List.append_assoc u t v).symm⟩,
      Sql.accepts_chars.2 ⟨v, rfl, Sql.accepts_rest⟩⟩

theorem finds_startsWith (t : Text) : ∃ ps, parts? (some '\\') (patternOf .startsWith t) = some ps ∧
    ∀ s, accepts ps s = true ↔ t <+: s := by
  refine ⟨t.map .char ++ [.run], Sql.parts?_escapePattern rfl, ?_⟩
  intro s
  rw [Sql.accepts_chars]
  constructor
  · rintro ⟨v, rfl, -⟩
    exact ⟨v, rfl⟩
  · rintro ⟨v, rfl⟩
    exact ⟨v, rfl, Sql.accepts_rest⟩

theorem finds_endsWith (t : Text) : ∃ ps, parts? (some '\\') (patternOf .endsWith t) = some ps ∧
    ∀ s, accepts ps s = true ↔ t <:+ s := by
  refine ⟨.run :: (t.map .char ++ []), Sql.parts?_unescaped (by decide)
    (Sql.parts?_escapePattern rfl), ?_⟩
  intro s
  rw [Sql.accepts_run]
  constructor
  · rintro ⟨_, hsuffix, hrest⟩
    obtain ⟨v, rfl, hv⟩ := Sql.accepts_chars.1 hrest
    rwa [Sql.accepts_nil.1 hv, List.append_nil] at hsuffix
  · intro hsuffix
    exact ⟨t, hsuffix, Sql.accepts_chars.2 ⟨[], (List.append_nil t).symm, rfl⟩⟩

theorem finds_patternOf (hop : op ∈ [.contains, .startsWith, .endsWith]) (t : Text) :
    ∃ ps, parts? (some '\\') (patternOf op t) = some ps ∧ ∀ s, accepts ps s = true ↔
    op.Finds t s := by
  obtain rfl | rfl | rfl : op = .contains ∨ op = .startsWith ∨ op = .endsWith := by simpa using hop
  · exact finds_contains t
  · exact finds_startsWith t
  · exact finds_endsWith t

theorem compare_of_mem (hop : op ∈ [.contains, .startsWith, .endsWith]) (negated : Bool)
    {l r : Term} (written : Text) :
    compare ctx op negated l r written = pattern ctx op negated l r := by
  obtain rfl | rfl | rfl : op = .contains ∨ op = .startsWith ∨ op = .endsWith := by simpa using hop
  all_goals rfl

theorem pattern_value {l : Term} {v : Value} (negated : Bool) (hv : v.patternText = .ok t) :
    pattern ctx op negated l (.value v) = (l.sql ctx).map fun x =>
      (Predicate.like x (ctx.quoteText (patternOf op t) ++ ctx.dialect.escapeClause)).sql
        ctx.dialect negated := by
  cases hl : l.sql ctx with
  | error e =>
    rw [pattern, hl]
    rfl
  | ok x =>
    rw [pattern, hl]
    simp only [hv]
    cases negated <;> rfl

end Term

inductive Value.Spells : Value → Text → Prop where
  | text (t : Text) : Spells (.text t) t
  | int (n : Int64) : Spells (.int n) (Text.ofInt n.toInt)
  | bool (b : Bool) : Spells (.bool b) (bit b)
  | float (x : Binary64) : Spells (.float x) x.text

/-- An operand is a text, or a name to which a scalar is bound; the name of an auto reference is
that of the column it is compared with. -/
inductive Operand.Gives (ctx : Context) : Operand → (other : Operand) → Text → Prop where
  | literal (t : Text) (other : Operand) : Gives ctx (.literal t) other t
  | parameter {name t : Text} {v : Value} (other : Operand) (hv : ctx.params.get? name = some v)
      (ht : v.Spells t) : Gives ctx (.parameter name) other t
  | auto {c : Column} {t : Text} {v : Value} (hv : ctx.params.get? c.name = some v)
      (ht : v.Spells t) :
      Gives ctx .auto (.column c) t

variable {ctx : Context} {t : Text}

theorem Value.Spells.patternText {v : Value} (h : v.Spells t) : v.patternText = .ok t := by
  cases h <;> rfl

theorem Term.bound_of_spells {name : Text} {v : Value} (hv : ctx.params.get? name = some v)
    (ht : v.Spells t) :
    Term.bound ctx name = .ok (.value v) := by
  rw [Term.bound, hv]
  cases ht <;> rfl

namespace Operand

variable {l r : Operand} {op : Operator}

theorem Gives.term_eq (h : r.Gives ctx l t) :
    ∃ v, r.term ctx l = .ok (.value v) ∧ v.patternText = .ok t := by
  cases h with
  | literal => exact ⟨.text t, rfl, rfl⟩
  | parameter _ hv ht => exact ⟨_, Term.bound_of_spells hv ht, ht.patternText⟩
  | auto hv ht => exact ⟨_, Term.bound_of_spells hv ht, ht.patternText⟩

theorem compare_of_text (negated : Bool) (hop : op ∈ [.contains, .startsWith, .endsWith])
    {v : Value} (hr : r.term ctx l = .ok (.value v)) (hv : v.patternText = .ok t) :
    compare ctx op negated l r = ((l.term ctx r).bind (Term.sql ctx)).map fun x =>
      (Predicate.like x (ctx.quoteText (Term.patternOf op t) ++ ctx.dialect.escapeClause)).sql
        ctx.dialect negated := by
  rw [compare, hr]
  cases l.term ctx r with
  | error e => rfl
  | ok lt =>
    cases lt with
    | malformed text => rfl
    | _ => exact (Term.compare_of_mem hop negated r.written).trans (Term.pattern_value negated hv)

/-- Whatever the text holds, none of its characters is a wildcard, an escape or a quote to the
database. -/
theorem matches_given_text (negated : Bool) (hop : op ∈ [.contains, .startsWith, .endsWith])
    (h : r.Gives ctx l t) :
    ∃ (sql : Text) (ps : List Sql.Part),
      compare ctx op negated l r = ((l.term ctx r).bind (Term.sql ctx)).map (fun x =>
        (Predicate.like x sql).sql ctx.dialect negated) ∧
      Sql.pattern? ctx.dialect sql = some ps ∧ ∀ s, accepts ps s = true ↔ op.Finds t s := by
  obtain ⟨ps, hps, hfinds⟩ := Term.finds_patternOf hop t
  obtain ⟨v, hr, hv⟩ := h.term_eq
  refine ⟨_, ps, compare_of_text negated hop hr hv, ?_, hfinds⟩
  exact (Sql.pattern?_quoteText ctx.dialect).trans hps

/-- A text with a wildcard, the escape and a quote, bound to the name of the column. -/
theorem matches_given_text_sqlite : ∃ (ctx : Context) (sql : Text) (ps : List Sql.Part),
    ctx.params.get? ['a'] = some (.text "_\\'".toList) ∧
    compare ctx .endsWith true (.column { name := ['a'] }) .auto = .ok
      ("\"a\" NOT LIKE ".toList ++ sql) ∧
    Sql.pattern? .sqlite sql = some ps ∧ accepts ps "%_\\'".toList = true ∧
    accepts ps "%x\\'".toList = false := by
  let ctx : Context := ⟨{ dialect := .sqlite }, Bindings.empty.insert ['a'] (.text "_\\'".toList)⟩
  have hgives : Gives ctx .auto (.column { name := ['a'] }) "_\\'".toList := .auto rfl (.text _)
  obtain ⟨sql, ps, hsql, hps, hfinds⟩ :=
    matches_given_text true (by decide : Operator.endsWith ∈ _) hgives
  refine ⟨ctx, sql, ps, rfl, hsql, hps, (hfinds _).2 ⟨['%'], rfl⟩, ?_⟩
  rw [Bool.eq_false_iff, ne_eq, hfinds]
  show ¬ "_\\'".toList <:+ "%x\\'".toList
  decide

end Operand

end QueryShorthand
