import QueryShorthand.Proofs.Condition.Alternation
import QueryShorthand.Proofs.Operand.Formed

/-! Every condition that is read is a canonical tree over the leaves of its text. -/
namespace QueryShorthand

namespace Expr

variable {e : Expr} {tokens : List Token}

/-- The operands of a comparison. A name that is bound is on the right, unless both are. -/
structure Sides (left right : Operand) : Prop where
  one_auto : ¬ (left.isAuto = true ∧ right.isAuto = true)
  auto_left : left.isAuto = true → right.isParameter = true
  parameter_left : left.isParameter = true → right.isParameter = true ∨ right.isAuto = true
  left_column : left.isWildcard = false
  right_column : right.isWildcard = false

/-- An OR of ANDs of clips, with two parts at least in each; a clip is a flag, a comparison or a
group, negated once or not at all. -/
def Canonical (e : Expr) : Prop := e.Formed (fun o => o.isWildcard = false) Sides

mutual

/-- The flags and comparisons from left to right, each with its own negation. -/
def leafClips : Expr → List Expr
  | all items => leafClipsAll items
  | any items => leafClipsAll items
  | group e => e.leafClips
  | not (group e) => e.leafClips
  | e => [e]

def leafClipsAll : List Expr → List Expr
  | [] => []
  | e :: es => e.leafClips ++ leafClipsAll es

end

theorem sides_of_comparison {clip : Text} {l r l' r' : Operand} {op op' : Operator}
    (hl : l.isWildcard = false) (hr : r.isWildcard = false)
    (h : comparison clip l op r = .ok (compare l' op' r')) : Sides l' r' := by
  unfold comparison at h
  split at h
  · cases h
  next hboth =>
  simp only [Bool.and_eq_true, Bool.or_eq_true, Bool.not_eq_true'] at hboth h
  split at h
  · next hswap =>
    cases h
    refine ⟨fun hautos => hboth hautos.symm, fun hauto => ?_, fun _ => ?_, hr, hl⟩
    · exact (hswap.resolve_left fun hother => hboth ⟨hother, hauto⟩).1
    · exact hswap.symm.imp And.left id
  · next hkeep =>
    cases h
    refine ⟨hboth, fun hauto => absurd (.inl hauto) hkeep, fun hparameter => ?_, hl, hr⟩
    by_contra hother
    rw [not_or, Bool.not_eq_true] at hother
    exact hkeep (.inr ⟨hparameter, hother.1⟩)

theorem leafClipsAll_eq_flatMap (es : List Expr) : leafClipsAll es = es.flatMap leafClips := by
  induction es with
  | nil => rfl
  | cons e es ih => rw [leafClipsAll, ih, List.flatMap_cons]

theorem leafClips_of_terms (e : Expr) :
    (e.terms.flatMap clips).flatMap leafClips = e.leafClips := by
  have hclips (t : Expr) : t.clips.flatMap leafClips = t.leafClips := by
    cases t with
    | all items => rw [clips, leafClips, leafClipsAll_eq_flatMap]
    | _ => exact List.flatMap_singleton ..
  have hterms : e.terms.flatMap leafClips = e.leafClips := by
    cases e with
    | any items => rw [terms, leafClips, leafClipsAll_eq_flatMap]
    | _ => exact List.flatMap_singleton ..
  rw [List.flatMap_assoc, ← hterms]
  exact List.flatMap_congr fun t _ => hclips t

theorem leafClips_group (bangs : Nat) : (negated bangs (group e)).leafClips = e.leafClips := by
  unfold negated
  split
  · rw [leafClips]
  · rw [leafClips]

theorem leafClips_of_ofBody {clip body : Text} (h : ofBody clip body = .ok e) :
    e.leafClips = [e] ∧ (not e).leafClips = [not e] := by
  obtain ⟨parts, -, h⟩ := exists_of_bind_eq_ok h
  split at h
  · obtain ⟨o, -, h⟩ := exists_of_bind_eq_ok h
    cases h
    exact ⟨rfl, rfl⟩
  · split at h
    · cases h
    · obtain ⟨l, -, h⟩ := exists_of_bind_eq_ok h
      obtain ⟨r, -, h⟩ := exists_of_bind_eq_ok h
      unfold comparison at h
      split at h
      · cases h
      · split at h <;> cases h <;> exact ⟨rfl, rfl⟩
  · cases h

theorem leafClips_of_ofLeaf {leaf : Text} (h : ofLeaf leaf = .ok e) : e.leafClips = [e] := by
  obtain ⟨body, hbody, rfl⟩ := exists_of_map_eq_ok h
  unfold negated
  split
  · exact (leafClips_of_ofBody hbody).2
  · exact (leafClips_of_ofBody hbody).1

def ReadEach (leaves : List Text) (es : List Expr) : Prop :=
  List.Forall₂ (fun leaf e => ofLeaf leaf = .ok e) leaves es

theorem readEach_of_mirrors
    (hitem : ∀ t ∈ tokens, ∀ before e, MirrorsItem (before, t) e → ReadEach t.leaves e.leafClips)
    (h : Mirrors tokens e) : ReadEach (Token.leavesAll tokens) e.leafClips := by
  obtain ⟨-, h⟩ := h
  have hleaves : Token.leavesAll tokens = (Token.inPlace tokens).flatMap fun p => p.2.leaves := by
    rw [← Token.leavesAll_inPlace, Token.leavesAll_eq_flatMap, List.flatMap_map]
  rw [hleaves, ← leafClips_of_terms]
  have hread : List.Forall₂ (fun p e => ReadEach p.2.leaves e.leafClips) (Token.inPlace tokens)
      (e.terms.flatMap clips) := by
    refine ((List.forall₂_and_left _ _).2
      ⟨fun p hp => hitem p.2 (Token.mem_of_mem_inPlace hp), h⟩).imp ?_
    rintro p e ⟨hp, he⟩
    exact hp p.1 e he
  exact List.rel_flatMap hread fun _ _ hpe => hpe

mutual

theorem readEach_of_mirrorsItem : ∀ (t : Token) {before : Option Text} {e : Expr},
    MirrorsItem (before, t) e → ReadEach t.leaves e.leafClips
  | .combinator s, _, _, h => by cases h
  | .leaf t, _, _, h => by
    cases h with
    | leaf h =>
      rw [Token.leaves, leafClips_of_ofLeaf h]
      exact .cons h .nil
  | .group lead tokens tail, _, _, h => by
    cases h with
    | group _ h =>
      rw [Token.leaves, leafClips_group]
      exact readEach_of_mirrors (readEach_of_mem tokens) h

theorem readEach_of_mem :
    ∀ (tokens : List Token), ∀ t ∈ tokens, ∀ (before : Option Text) (e : Expr),
    MirrorsItem (before, t) e → ReadEach t.leaves e.leafClips
  | [] => by simp
  | t :: tokens => List.forall_mem_cons.2
    ⟨fun _ _ h => readEach_of_mirrorsItem t h, readEach_of_mem tokens⟩

end

end Expr

namespace Condition

theorem canonical_of_read {source : Text} {c : Condition} (h : read source = .ok c) :
    (∀ e, c.expr = some e → e.Canonical) ∧ ∃ tokens, Token.read delimiters source = .ok tokens ∧
      Expr.ReadEach (Token.leavesAll tokens) (c.expr.elim [] Expr.leafClips) := by
  refine ⟨fun e he => ?_, ?_⟩
  · refine Expr.formed_of_read (fun _ _ ho => Operand.not_isWildcard_of_read ho) ?_ h he
    intro clip tl tr l op r l' op' r' hl hr hc
    exact Expr.sides_of_comparison (Operand.not_isWildcard_of_read hl)
      (Operand.not_isWildcard_of_read hr) hc
  · obtain ⟨tokens, htokens, h⟩ := exists_of_bind_eq_ok h
    obtain ⟨expr, hexpr, h⟩ := exists_of_bind_eq_ok h
    cases h
    refine ⟨tokens, htokens, ?_⟩
    cases expr with
    | none =>
      rw [Expr.eq_nil_of_ofSlots hexpr]
      exact .nil
    | some e =>
      have hmirrors := Expr.mirrors_of_ofSlots (Expr.mirrorsItem_of_mem tokens) hexpr
      exact Expr.readEach_of_mirrors (Expr.readEach_of_mem tokens) hmirrors

/-- Here a parameter changes sides, an auto reference stays opposite one, and one of three negations
is left. -/
theorem canonical_of_read_swapped :
    ∃ c e, read "!(:p>a,:q=?|!!!f(b))".toList = .ok c ∧ c.expr = some e ∧
    e.Canonical ∧ Expr.ReadEach [":p>a".toList, ":q=?".toList, "!!!f(b)".toList] e.leafClips := by
  have hread : (read "!(:p>a,:q=?|!!!f(b))".toList).map (fun c => c.expr.isSome) = .ok true := by
    decide +kernel
  have hleaves : (Token.read delimiters "!(:p>a,:q=?|!!!f(b))".toList).map Token.leavesAll =
      .ok [":p>a".toList, ":q=?".toList, "!!!f(b)".toList] := by
    decide +kernel
  obtain ⟨c, hc, hsome⟩ := exists_of_map_eq_ok hread
  obtain ⟨e, he⟩ := Option.isSome_iff_exists.1 hsome
  obtain ⟨hcanonical, tokens, htokens, hclips⟩ := canonical_of_read hc
  rw [htokens] at hleaves
  rw [he, Except.ok.inj hleaves] at hclips
  exact ⟨c, e, hc, he, hcanonical e he, hclips⟩

end Condition

end QueryShorthand
