import QueryShorthand.Proofs.Value.Shape
import QueryShorthand.Target.Basic

/-! Numbers that are not finite, which SQL cannot write and JSON writes as null. -/
namespace QueryShorthand

namespace Value

def isNonFinite : Value → Bool
  | float x => !x.isFinite
  | _ => false

mutual

/-- The value is a number that is not finite, or has one in its lists at any depth. -/
def holdsNonFinite : Value → Bool
  | float x => !x.isFinite
  | array items => anyHoldsNonFinite items
  | _ => false

def anyHoldsNonFinite : List Value → Bool
  | [] => false
  | v :: vs => v.holdsNonFinite || anyHoldsNonFinite vs

end

mutual

def nulled : Value → Value
  | float x => if x.isFinite then float x else null
  | array items => array (nulledAll items)
  | v => v

def nulledAll : List Value → List Value
  | [] => []
  | v :: vs => v.nulled :: nulledAll vs

end

variable {d : Dialect} {v : Value}

mutual

theorem toJson_nulled : ∀ v : Value, v.nulled.toJson = v.toJson
  | null => rfl
  | bool _ => rfl
  | int _ => rfl
  | float x => by
    rw [nulled]
    split
    · rfl
    · next hx => rw [toJson, toJson, jsonOfFloat, dif_neg hx]
  | text _ => rfl
  | array items => by rw [nulled, toJson, toJson, toJsonAll_nulledAll items]
  | json _ => rfl
  | statement _ => rfl

theorem toJsonAll_nulledAll : ∀ vs : List Value, toJsonAll (nulledAll vs) = toJsonAll vs
  | [] => rfl
  | v :: vs => by rw [nulledAll, toJsonAll, toJsonAll, toJson_nulled v, toJsonAll_nulledAll vs]

end

theorem isEmpty_nulledAll (vs : List Value) : (nulledAll vs).isEmpty = vs.isEmpty := by
  cases vs <;> rfl

theorem length_nulledAll (vs : List Value) : (nulledAll vs).length = vs.length := by
  induction vs with
  | nil => rfl
  | cons v vs ih => rw [nulledAll, List.length_cons, List.length_cons, ih]

mutual

theorem nulled_of_not_holds : ∀ {v : Value}, v.holdsNonFinite = false → v.nulled = v
  | null, _ => rfl
  | bool _, _ => rfl
  | int _, _ => rfl
  | float x, h => by
    rw [holdsNonFinite, Bool.not_eq_false'] at h
    rw [nulled, if_pos h]
  | text _, _ => rfl
  | array items, h => by
    rw [holdsNonFinite] at h
    rw [nulled, nulledAll_of_not_holds h]
  | json _, _ => rfl
  | statement _, _ => rfl

theorem nulledAll_of_not_holds :
    ∀ {vs : List Value}, anyHoldsNonFinite vs = false → nulledAll vs = vs
  | [], _ => rfl
  | v :: vs, h => by
    rw [anyHoldsNonFinite, Bool.or_eq_false_iff] at h
    rw [nulledAll, nulled_of_not_holds h.1, nulledAll_of_not_holds h.2]

end

theorem holdsNonFinite_ofNumber (n : Json.Number) : (ofNumber n).holdsNonFinite = false := by
  cases n with
  | natural n =>
    rw [ofNumber]
    split <;> rfl
  | negative => rfl
  | float x hx => rw [ofNumber, holdsNonFinite, hx, Bool.not_true]

mutual

theorem holdsNonFinite_ofJson : ∀ j : Json, (ofJson j).holdsNonFinite = false
  | .null => rfl
  | .bool _ => rfl
  | .number n => holdsNonFinite_ofNumber n
  | .text _ => rfl
  | .array items => anyHoldsNonFinite_ofJsonAll items
  | .object _ => rfl

theorem anyHoldsNonFinite_ofJsonAll : ∀ js : List Json, anyHoldsNonFinite (ofJsonAll js) = false
  | [] => rfl
  | j :: js => by
    rw [ofJsonAll, anyHoldsNonFinite, holdsNonFinite_ofJson j, anyHoldsNonFinite_ofJsonAll js]
    rfl

end

theorem sql_of_isNonFinite (d : Dialect) (h : v.isNonFinite = true) :
    ∃ x : Binary64, v = float x ∧ v.sql d = .error (.nonFinite x.text) := by
  cases v with
  | float x =>
    have hx : ¬ x.isFinite = true := by simpa [isNonFinite] using h
    exact ⟨x, rfl, by rw [sql, if_neg hx]⟩
  | _ => cases h

theorem sql_nulled (d : Dialect) (h : v.isNonFinite = false) : v.nulled.sql d = v.sql d := by
  cases v with
  | float x =>
    rw [isNonFinite, Bool.not_eq_false'] at h
    rw [nulled, if_pos h]
  | array items =>
    have hjson := toJson_nulled (array items)
    rw [nulled] at hjson ⊢
    rw [sql, sql, hjson]
  | _ => rfl

theorem patternText_nulled (h : v.isNonFinite = false) : v.nulled.patternText = v.patternText := by
  cases v with
  | float x =>
    rw [isNonFinite, Bool.not_eq_false'] at h
    rw [nulled, if_pos h]
  | array items =>
    have hjson := toJson_nulled (array items)
    rw [nulled] at hjson ⊢
    rw [patternText, patternText, hjson]
    all_goals simp
  | _ => rfl

end Value

def Bindings.map {α β : Type} (f : α → β) (b : Bindings α) : Bindings β where
  entries := b.entries.map fun e => (e.1, f e.2)
  ascending := by
    rw [Ascending, List.pairwise_map]
    exact b.ascending

theorem Bindings.get?_map {α β : Type} (f : α → β) (b : Bindings α) (k : Text) :
    (b.map f).get? k = (b.get? k).map f := by
  obtain ⟨entries, hentries⟩ := b
  show (entries.map fun e => (e.1, f e.2)).lookup k = (entries.lookup k).map f
  clear hentries
  induction entries with
  | nil => rfl
  | cons e entries ih =>
    rw [List.map_cons, lookup_cons_ite, lookup_cons_ite, ih]
    split <;> rfl

def Context.nulled (ctx : Context) : Context := { ctx with params := ctx.params.map Value.nulled }

theorem Context.get?_nulled (ctx : Context) (name : Text) :
    ctx.nulled.params.get? name = (ctx.params.get? name).map Value.nulled :=
  Bindings.get?_map Value.nulled ctx.params name

end QueryShorthand
