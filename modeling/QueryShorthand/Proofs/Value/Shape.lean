import QueryShorthand.Proofs.Agreement
import QueryShorthand.Proofs.Value.Numeral
import QueryShorthand.Value.Sql

/-! Values of one shape: they differ at most in the characters of texts. As SQL they are alike. -/
namespace QueryShorthand

open Sql (Alike Word)

variable {d : Dialect} {strict : Prop}

namespace Value

mutual

/-- Equal up to the characters of texts, also inside arrays, and free of nested statements. -/
def SameShape : Value → Value → Prop
  | null, null => True
  | bool a, bool b => a = b
  | int m, int n => m = n
  | float x, float y => x = y
  | text _, text _ => True
  | array as, array bs => SameShapes as bs
  | json j, json k => j = k
  | _, _ => False

def SameShapes : List Value → List Value → Prop
  | [], [] => True
  | a :: as, b :: bs => SameShape a b ∧ SameShapes as bs
  | _, _ => False

end

mutual

def holdsStatement : Value → Bool
  | array items => anyHoldsStatement items
  | statement _ => true
  | _ => false

def anyHoldsStatement : List Value → Bool
  | [] => false
  | v :: vs => v.holdsStatement || anyHoldsStatement vs

end

mutual

theorem sameShape_refl : ∀ {v : Value}, v.holdsStatement = false → SameShape v v
  | null, _ => trivial
  | bool _, _ => rfl
  | int _, _ => rfl
  | float _, _ => rfl
  | text _, _ => trivial
  | array _, h => sameShapes_refl (by simpa [holdsStatement] using h)
  | json _, _ => rfl
  | statement _, h => by simp [holdsStatement] at h

theorem sameShapes_refl : ∀ {vs : List Value}, anyHoldsStatement vs = false → SameShapes vs vs
  | [], _ => trivial
  | v :: vs, h => by
    simp only [anyHoldsStatement, Bool.or_eq_false_iff] at h
    exact ⟨sameShape_refl h.1, sameShapes_refl h.2⟩

end

mutual

theorem exists_toJson_of_sameShape : ∀ {v w : Value}, SameShape v w →
    ∃ j k, v.toJson = .ok j ∧ w.toJson = .ok k
  | null, null, _ => ⟨_, _, rfl, rfl⟩
  | bool _, bool _, _ => ⟨_, _, rfl, rfl⟩
  | int _, int _, _ => ⟨_, _, rfl, rfl⟩
  | float _, float _, _ => ⟨_, _, rfl, rfl⟩
  | text _, text _, _ => ⟨_, _, rfl, rfl⟩
  | array _, array _, h => by
    obtain ⟨js, ks, hj, hk⟩ := exists_toJsonAll_of_sameShapes h
    exact ⟨_, _, by rw [toJson, hj]; rfl, by rw [toJson, hk]; rfl⟩
  | json _, json _, _ => ⟨_, _, rfl, rfl⟩

theorem exists_toJsonAll_of_sameShapes : ∀ {vs ws : List Value}, SameShapes vs ws →
    ∃ js ks, toJsonAll vs = .ok js ∧ toJsonAll ws = .ok ks
  | [], [], _ => ⟨_, _, rfl, rfl⟩
  | v :: vs, w :: ws, h => by
    obtain ⟨j, k, hj, hk⟩ := exists_toJson_of_sameShape h.1
    obtain ⟨js, ks, hjs, hks⟩ := exists_toJsonAll_of_sameShapes h.2
    exact ⟨j :: js, k :: ks, by rw [toJsonAll, hj, hjs]; rfl, by rw [toJsonAll, hk, hks]; rfl⟩

end

theorem isEmpty_eq_of_sameShapes {vs ws : List Value} (h : SameShapes vs ws) :
    vs.isEmpty = ws.isEmpty := by
  cases vs <;> cases ws <;> simp_all [SameShapes]

theorem word_bit (b : Bool) : Word d (bit b) := by
  cases b
  · exact .of_glyphs (by decide) (by decide)
  · exact .of_glyphs (by decide) (by decide)

theorem word_of_numerals {t : Text} (h : ∀ c ∈ t, isNumeral c = true) : Word d t := by
  refine .of_glyphs (List.all_eq_true.2 fun c hc => Sql.isGlyph_of_isNumeral (h c hc)) ?_
  by_contra hf
  simp only [Sql.isConnective, Bool.not_eq_false, Bool.or_eq_true, beq_iff_eq] at hf
  rcases hf with (rfl | rfl) | rfl
  · exact absurd (h 'O' (by decide)) (by decide)
  · exact absurd (h 'A' (by decide)) (by decide)
  · exact absurd (h 'B' (by decide)) (by decide)

theorem word_of_sql {v : Value} (hv : v.holdsStatement = false) {t : Text} (h : v.sql d = .ok t) :
    Word d t := by
  cases v with
  | null =>
    cases h
    exact .of_glyphs (by decide) (by decide)
  | bool b =>
    cases h
    exact word_bit b
  | int n =>
    cases h
    exact word_of_numerals fun _ => isNumeral_of_mem_ofInt
  | float x =>
    simp only [sql] at h
    split at h
    · next hx =>
      cases h
      exact word_of_numerals fun _ => isNumeral_of_mem_text hx
    · cases h
  | text t =>
    cases h
    exact .literal t
  | array items =>
    simp only [sql] at h
    cases hj : (array items).toJson with
    | error e => simp [hj, Except.map] at h
    | ok j =>
      simp only [hj, Except.map, Except.ok.injEq] at h
      exact h ▸ .literal _
  | json j =>
    cases h
    exact .literal _
  | statement s => simp [holdsStatement] at hv

theorem agree_sql : ∀ {v w : Value}, SameShape v w →
    Agree (Alike d) strict (v.sql d) (w.sql d)
  | null, null, _ => .ok (.of_plain (by decide))
  | bool a, bool _, h => by
    cases h
    exact .ok (word_bit a).alike
  | int n, int _, h => by
    cases h
    exact .ok (word_of_sql (v := int n) rfl rfl).alike
  | float x, float _, h => by
    cases h
    cases hx : (float x).sql d with
    | error e => exact .errors
    | ok t => exact .ok (word_of_sql (v := float x) rfl hx).alike
  | text t, text u, _ => .ok (.literal t u)
  | array as, array bs, h => by
    obtain ⟨j, k, hj, hk⟩ := exists_toJson_of_sameShape (v := array as) (w := array bs) h
    simp only [sql, hj, hk]
    exact .ok (.literal _ _)
  | json _, json _, h => by
    cases h
    exact .ok (.literal _ _)

/-- Whether a value can be a pattern depends on its shape alone. -/
theorem agree_patternText : ∀ {v w : Value}, SameShape v w →
    Agree (fun _ _ => True) strict v.patternText w.patternText
  | null, null, _ => .errors
  | bool _, bool _, _ => .ok trivial
  | int _, int _, _ => .ok trivial
  | float _, float _, _ => .ok trivial
  | text _, text _, _ => .ok trivial
  | array as, array bs, h => by
    obtain ⟨j, k, hj, hk⟩ := exists_toJson_of_sameShape (v := array as) (w := array bs) h
    simp only [patternText, hj, hk]
    exact .errors
  | json _, json _, _ => .errors

theorem agree_toJson {v w : Value} (h : SameShape v w) :
    Agree (fun _ _ => True) strict v.toJson w.toJson := by
  obtain ⟨j, k, hj, hk⟩ := exists_toJson_of_sameShape h
  rw [hj, hk]
  exact .ok trivial

end Value

namespace Parameters

def SameShape (p q : Parameters) : Prop :=
  ∀ name, Option.Rel Value.SameShape (p.get? name) (q.get? name)

theorem SameShape.isSome_eq {p q : Parameters} (h : p.SameShape q) (name : Text) :
    (p.get? name).isSome = (q.get? name).isSome := by
  have hn := h name
  cases hp : p.get? name <;> cases hq : q.get? name <;> rw [hp, hq] at hn
  · cases hn
  · cases hn
  · rfl

def Flat (p : Parameters) : Prop := ∀ name v, p.get? name = some v → v.holdsStatement = false

theorem Flat.sameShape {p : Parameters} (h : p.Flat) : p.SameShape p := by
  intro name
  cases hv : p.get? name with
  | none => exact .none
  | some v => exact .some (Value.sameShape_refl (h name v hv))

end Parameters

end QueryShorthand
