import QueryShorthand.Proofs.Json.Nesting
import QueryShorthand.Value.Basic

/-! Documents and values converted into each other. Only integers beyond the signed range do not
come back as they were. -/
namespace QueryShorthand

namespace Json

mutual

/-- Each integer beyond the signed range gives way to the text of its digits; objects stay as they
are. -/
def spelledOut : Json → Json
  | number (.natural n) =>
    if 9223372036854775807 < n.toNat then text (Text.ofNat n.toNat) else number (.natural n)
  | array items => array (spelledOutAll items)
  | j => j

def spelledOutAll : List Json → List Json
  | [] => []
  | j :: js => j.spelledOut :: spelledOutAll js

end

/-- The number stands somewhere in the document, outside any object. -/
inductive Exposes : Json → Number → Prop where
  | number (n : Number) : Exposes (number n) n
  | item {items : List Json} {j : Json} {n : Number} (hj : j ∈ items) (h : Exposes j n) :
      Exposes (array items) n

def InRange (j : Json) : Prop := ∀ n, j.Exposes (.natural n) → n.toNat ≤ 9223372036854775807

theorem inRange_array {items : List Json} : (array items).InRange ↔ ∀ j ∈ items, j.InRange := by
  constructor
  · intro h j hj n hn
    exact h n (.item hj hn)
  · intro h n hn
    cases hn with
    | item hj hn => exact h _ hj n hn

mutual

theorem spelledOut_eq_self_iff : ∀ j : Json, j.spelledOut = j ↔ j.InRange
  | null => iff_of_true rfl fun _ hn => nomatch hn
  | bool _ => iff_of_true rfl fun _ hn => nomatch hn
  | number (.natural n) => by
    constructor
    · intro h m hm
      cases hm
      apply Nat.le_of_not_lt
      intro hlarge
      rw [spelledOut, if_pos hlarge] at h
      cases h
    · intro h
      have hn := h n (.number _)
      exact if_neg (by omega)
  | number (.negative _ _) => iff_of_true rfl fun _ hn => nomatch hn
  | number (.float _ _) => iff_of_true rfl fun _ hn => nomatch hn
  | text _ => iff_of_true rfl fun _ hn => nomatch hn
  | array items => by
    rw [spelledOut, array.injEq, spelledOutAll_eq_self_iff items, inRange_array]
  | object _ => iff_of_true rfl fun _ hn => nomatch hn

theorem spelledOutAll_eq_self_iff : ∀ js : List Json, spelledOutAll js = js ↔ ∀ j ∈ js, j.InRange
  | [] => by simp [spelledOutAll]
  | j :: js => by
    rw [spelledOutAll, List.cons.injEq, spelledOut_eq_self_iff j, spelledOutAll_eq_self_iff js,
      List.forall_mem_cons]

end

mutual

theorem nests_spelledOut : ∀ {depth : Nat} {j : Json}, Nests depth j → Nests depth j.spelledOut
  | _, null, h | _, bool _, h | _, text _, h | _, object _, h => h
  | _, number (.negative _ _), h | _, number (.float _ _), h => h
  | _, number (.natural n), _ => by
    rw [spelledOut]
    split <;> trivial
  | _, array _, h => ⟨h.1, nestsAll_spelledOutAll h.2⟩

theorem nestsAll_spelledOutAll : ∀ {depth : Nat} {js : List Json},
    NestsAll depth js → NestsAll depth (spelledOutAll js)
  | _, [], h => h
  | _, _ :: _, h => ⟨nests_spelledOut h.1, nestsAll_spelledOutAll h.2⟩

end

end Json

namespace Value

theorem ofInt64_toInt64 {n : UInt64} (h : n.toNat < 9223372036854775808) :
    Json.Number.ofInt64 n.toInt64 = .natural n := by
  have hn : ¬ n.toInt64 < 0 := by
    have hnat : n.toBitVec.toNat = n.toNat := rfl
    rw [Int64.lt_iff_toInt_lt]
    show ¬ n.toBitVec.toInt < 0
    rw [BitVec.toInt_eq_toNat_cond]
    split <;> omega
  rw [Json.Number.ofInt64, dif_neg hn, UInt64.toUInt64_toInt64]

theorem ofInt64_negative {n : Int64} (h : n < 0) : Json.Number.ofInt64 n = .negative n h :=
  dif_pos h

theorem toJson_ofNumber (n : Json.Number) :
    (ofNumber n).toJson = .ok (Json.number n).spelledOut := by
  cases n with
  | natural n =>
    by_cases h : n.toNat < 9223372036854775808
    · rw [ofNumber, if_pos h, toJson, ofInt64_toInt64 h, Json.spelledOut, if_neg (by omega)]
    · rw [ofNumber, if_neg h, toJson, Json.spelledOut, if_pos (by omega)]
  | negative n h =>
    rw [ofNumber, toJson, ofInt64_negative h]
    rfl
  | float x hx =>
    have hj : jsonOfFloat x = .number (.float x hx) := dif_pos hx
    rw [ofNumber, toJson, hj]
    rfl

mutual

theorem toJson_ofJson : ∀ j : Json, (ofJson j).toJson = .ok j.spelledOut
  | .null => rfl
  | .bool _ => rfl
  | .number n => toJson_ofNumber n
  | .text _ => rfl
  | .array items => by
    rw [ofJson, toJson, toJsonAll_ofJsonAll items]
    rfl
  | .object _ => rfl

theorem toJsonAll_ofJsonAll :
    ∀ js : List Json, toJsonAll (ofJsonAll js) = .ok (Json.spelledOutAll js)
  | [] => rfl
  | j :: js => by
    rw [ofJsonAll, toJsonAll, toJson_ofJson j, toJsonAll_ofJsonAll js]
    rfl

end

/-- Null, a truth value, an integer, a finite number, a text, an object, or a list of such
values. -/
inductive Convertible : Value → Prop where
  | null : Convertible null
  | bool (b : Bool) : Convertible (bool b)
  | int (n : Int64) : Convertible (int n)
  | float {x : Binary64} (hx : x.isFinite = true) : Convertible (float x)
  | text (t : Text) : Convertible (text t)
  | object (members : List (Text × Json)) : Convertible (json (.object members))
  | array {items : List Value} (h : ∀ v ∈ items, Convertible v) : Convertible (array items)

theorem ofNumber_ofInt64 (n : Int64) : ofNumber (.ofInt64 n) = int n := by
  by_cases h : n < 0
  · rw [ofInt64_negative h]
    rfl
  · have hsmall : n.toUInt64.toNat < 9223372036854775808 := by
      have hsign : ¬ n.toBitVec.toInt < 0 := by
        rw [Int64.lt_iff_toInt_lt] at h
        exact h
      have hnat : n.toUInt64.toNat = n.toBitVec.toNat := rfl
      rw [BitVec.toInt_eq_toNat_cond] at hsign
      have hbound := n.toBitVec.isLt
      split at hsign <;> omega
    rw [Json.Number.ofInt64, dif_neg h, ofNumber, if_pos hsmall, Int64.toInt64_toUInt64]

theorem convertible_ofNumber (n : Json.Number) : (ofNumber n).Convertible := by
  cases n with
  | natural n =>
    by_cases h : n.toNat < 9223372036854775808
    · rw [ofNumber, if_pos h]
      exact .int _
    · rw [ofNumber, if_neg h]
      exact .text _
  | negative n _ => exact .int n
  | float x hx => exact .float hx

mutual

theorem convertible_ofJson : ∀ j : Json, (ofJson j).Convertible
  | .null => .null
  | .bool b => .bool b
  | .number n => convertible_ofNumber n
  | .text t => .text t
  | .array items => .array (convertible_ofJsonAll items)
  | .object members => .object members

theorem convertible_ofJsonAll : ∀ js : List Json, ∀ v ∈ ofJsonAll js, v.Convertible
  | [] => fun _ hv => nomatch hv
  | j :: js => List.forall_mem_cons.2 ⟨convertible_ofJson j, convertible_ofJsonAll js⟩

end

def ComesBack (v : Value) : Prop := ∃ j, v.toJson = .ok j ∧ ofJson j = v

theorem comesBack_all {items : List Value} (h : ∀ v ∈ items, v.ComesBack) :
    ∃ js, toJsonAll items = .ok js ∧ ofJsonAll js = items := by
  induction items with
  | nil => exact ⟨[], rfl, rfl⟩
  | cons v vs ih =>
    obtain ⟨hv, hvs⟩ := List.forall_mem_cons.1 h
    obtain ⟨j, hj, hof⟩ := hv
    obtain ⟨js, hjs, hofs⟩ := ih hvs
    refine ⟨j :: js, ?_, ?_⟩
    · rw [toJsonAll, hj, hjs]
      rfl
    · rw [ofJsonAll, hof, hofs]

theorem comesBack_of_convertible {v : Value} (h : v.Convertible) : v.ComesBack := by
  induction h with
  | null => exact ⟨_, rfl, rfl⟩
  | bool b => exact ⟨_, rfl, rfl⟩
  | int n => exact ⟨_, rfl, ofNumber_ofInt64 n⟩
  | @float x hx =>
    have hj : jsonOfFloat x = .number (.float x hx) := dif_pos hx
    refine ⟨_, rfl, ?_⟩
    rw [hj]
    rfl
  | text t => exact ⟨_, rfl, rfl⟩
  | object members => exact ⟨_, rfl, rfl⟩
  | array _ ih =>
    obtain ⟨js, hjs, hof⟩ := comesBack_all ih
    refine ⟨.array js, ?_, ?_⟩
    · rw [toJson, hjs]
      rfl
    · rw [ofJson, hof]

theorem ofJson_spelledOut (j : Json) : ofJson j.spelledOut = ofJson j := by
  obtain ⟨k, hk, hof⟩ := comesBack_of_convertible (convertible_ofJson j)
  rw [toJson_ofJson] at hk
  cases hk
  exact hof

/-- Nothing is lost from a document but that large integers become text, and nothing from a value
that a document can give; any other value has no document or does not come back from it. -/
theorem converts_both_ways :
    (∀ j : Json, (ofJson j).toJson = .ok j.spelledOut ∧ (j.spelledOut = j ↔ j.InRange)) ∧
    ∀ v : Value, (∃ j, v.toJson = .ok j ∧ ofJson j = v) ↔ v.Convertible := by
  constructor
  · intro j
    exact ⟨toJson_ofJson j, Json.spelledOut_eq_self_iff j⟩
  · intro v
    constructor
    · rintro ⟨j, -, rfl⟩
      exact convertible_ofJson j
    · exact comesBack_of_convertible

end Value

end QueryShorthand
