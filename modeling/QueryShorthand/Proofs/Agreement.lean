import Mathlib.Data.List.Forall2
import QueryShorthand.Error

/-! Computations that may fail, taken apart at a bind, and two of them side by side. They agree on
`R` if results of both are related; under `strict` moreover one gives a result exactly when the
other does. Errors themselves are not compared. -/
namespace QueryShorthand

theorem exists_of_bind_eq_ok {α β : Type} {x : Except Error α} {f : α → Except Error β} {b : β}
    (h : (x >>= f) = .ok b) : ∃ a, x = .ok a ∧ f a = .ok b := by
  cases x with
  | error e => cases h
  | ok a => exact ⟨a, rfl, h⟩

theorem error_or_exists_of_bind_eq_error {α β : Type} {x : Except Error α} {f : α → Except Error β}
    {e : Error} (h : (x >>= f) = .error e) : x = .error e ∨ ∃ a, x = .ok a ∧ f a = .error e := by
  cases x with
  | error e' =>
    cases h
    exact .inl rfl
  | ok a => exact .inr ⟨a, rfl, h⟩

theorem exists_of_map_eq_ok {ε α β : Type} {x : Except ε α} {f : α → β} {b : β}
    (h : x.map f = .ok b) : ∃ a, x = .ok a ∧ f a = b := by
  cases x with
  | error e => cases h
  | ok a => exact ⟨a, rfl, by simpa [Except.map] using h⟩

theorem eq_error_of_map_eq_error {ε α β : Type} {x : Except ε α} {f : α → β} {e : ε}
    (h : x.map f = .error e) : x = .error e := by
  cases x with
  | error e' =>
    cases h
    rfl
  | ok a => cases h

theorem eq_ok_of_toOption {α : Type} {x : Except Error α} {a : α} (h : x.toOption = some a) :
    x = .ok a := by
  cases x with
  | error e => cases h
  | ok b =>
    cases h
    rfl

theorem exists_of_isOk {α : Type} {x : Except Error α} (h : x.isOk = true) : ∃ a, x = .ok a := by
  cases x with
  | error e => cases h
  | ok a => exact ⟨a, rfl⟩

theorem exists_of_mapM_eq_ok {α β : Type} {f : α → Except Error β} {l : List α} {bs : List β}
    (h : l.mapM f = .ok bs) : ∀ b ∈ bs, ∃ a ∈ l, f a = .ok b := by
  induction l generalizing bs with
  | nil =>
    cases h
    simp
  | cons a l ih =>
    rw [List.mapM_cons] at h
    obtain ⟨b, hb, h⟩ := exists_of_bind_eq_ok h
    obtain ⟨bs', hbs, h⟩ := exists_of_bind_eq_ok h
    cases h
    intro c hc
    rcases List.mem_cons.1 hc with rfl | hc
    · exact ⟨a, List.mem_cons_self, hb⟩
    · obtain ⟨a', ha, h⟩ := ih hbs c hc
      exact ⟨a', List.mem_cons_of_mem _ ha, h⟩

theorem mapM_eq_ok_iff {α β : Type} {f : α → Except Error β} {l : List α} {bs : List β} :
    l.mapM f = .ok bs ↔ List.Forall₂ (fun a b => f a = .ok b) l bs := by
  induction l generalizing bs with
  | nil =>
    rw [List.forall₂_nil_left_iff, List.mapM_nil]
    constructor
    · intro h
      cases h
      rfl
    · rintro rfl
      rfl
  | cons a l ih =>
    rw [List.mapM_cons]
    constructor
    · intro h
      obtain ⟨b, hb, h⟩ := exists_of_bind_eq_ok h
      obtain ⟨bs', hbs, h⟩ := exists_of_bind_eq_ok h
      cases h
      exact .cons hb (ih.1 hbs)
    · intro h
      cases h with
      | cons hb hbs =>
        rw [hb, ih.2 hbs]
        rfl

theorem exists_of_forall₂ {α β : Type} {R : α → β → Prop} {as : List α} {bs : List β}
    (h : List.Forall₂ R as bs) : ∀ a ∈ as, ∃ b ∈ bs, R a b := by
  induction h with
  | nil => simp
  | @cons a b as bs hab _ ih =>
    refine List.forall_mem_cons.2 ⟨⟨b, List.mem_cons_self, hab⟩, fun a' ha' => ?_⟩
    obtain ⟨b', hb', hr⟩ := ih a' ha'
    exact ⟨b', List.mem_cons_of_mem _ hb', hr⟩

theorem exists_getLast_of_forall₂ {α β : Type} {R : α → β → Prop} {as : List α} {bs : List β}
    {a : α} (h : List.Forall₂ R as bs) (ha : as.getLast? = some a) :
    ∃ b, bs.getLast? = some b ∧ R a b := by
  rw [List.getLast?_eq_head?_reverse] at ha ⊢
  obtain ⟨l, hl⟩ := List.head?_eq_some_iff.1 ha
  have hr := List.forall₂_reverse_iff.2 h
  rw [hl] at hr
  obtain ⟨b, m, hab, -, hm⟩ := List.forall₂_cons_left_iff.1 hr
  exact ⟨b, by rw [hm, List.head?_cons], hab⟩

theorem exists_getElem_of_forall₂ {α β : Type} {R : α → β → Prop} {front behind : List α}
    {bs : List β} {a : α} (h : List.Forall₂ R (front ++ a :: behind) bs) :
    ∃ b, bs[front.length]? = some b ∧ R a b := by
  induction front generalizing bs with
  | nil =>
    obtain ⟨b, rest, hab, -, rfl⟩ := List.forall₂_cons_left_iff.1 h
    exact ⟨b, rfl, hab⟩
  | cons x front ih =>
    obtain ⟨y, rest, -, hrest, rfl⟩ := List.forall₂_cons_left_iff.1 h
    obtain ⟨b, hb, hab⟩ := ih hrest
    exact ⟨b, hb, hab⟩

inductive Agree {α β : Type} (R : α → β → Prop) (strict : Prop) :
    Except Error α → Except Error β → Prop where
  | ok {a : α} {b : β} (h : R a b) : Agree R strict (.ok a) (.ok b)
  | errors {e f : Error} : Agree R strict (.error e) (.error f)
  | first {a : α} {f : Error} (h : ¬ strict) : Agree R strict (.ok a) (.error f)
  | second {e : Error} {b : β} (h : ¬ strict) : Agree R strict (.error e) (.ok b)

namespace Agree

variable {α β γ δ : Type} {R : α → β → Prop} {S : γ → δ → Prop} {strict : Prop}
  {x : Except Error α} {y : Except Error β}

theorem bind (h : Agree R strict x y) {f : α → Except Error γ} {g : β → Except Error δ}
    (hk : ∀ a b, R a b → Agree S strict (f a) (g b)) : Agree S strict (x >>= f) (y >>= g) := by
  cases h with
  | ok h => exact hk _ _ h
  | errors => exact .errors
  | @first a _ h =>
    show Agree S strict (f a) _
    cases f a with
    | ok c => exact .first h
    | error e => exact .errors
  | @second _ b h =>
    show Agree S strict _ (g b)
    cases g b with
    | ok c => exact .second h
    | error e => exact .errors

theorem map (h : Agree R strict x y) {f : α → γ} {g : β → δ} (hk : ∀ a b, R a b → S (f a) (g b)) :
    Agree S strict (x.map f) (y.map g) := by
  cases h with
  | ok h => exact .ok (hk _ _ h)
  | errors => exact .errors
  | first h => exact .first h
  | second h => exact .second h

theorem same {T : α → α → Prop} {x : Except Error α} (h : ∀ a, x = .ok a → T a a) :
    Agree T strict x x := by
  cases x with
  | error e => exact .errors
  | ok a => exact .ok (h a rfl)

theorem throws (x : Except Error γ) (y : Except Error δ) (f : γ → Error) (g : δ → Error) :
    Agree R strict (x >>= fun c => throw (f c)) (y >>= fun c => throw (g c)) := by
  cases x <;> cases y <;> exact .errors

theorem strengthen {Q : α → β → Prop} (h : Agree R strict x y)
    (hq : ∀ a b, x = .ok a → y = .ok b → Q a b) : Agree (fun a b => R a b ∧ Q a b) strict x y := by
  cases h with
  | ok h => exact .ok ⟨h, hq _ _ rfl rfl⟩
  | errors => exact .errors
  | first h => exact .first h
  | second h => exact .second h

theorem related (h : Agree R strict x y) {a : α} {b : β} (hx : x = .ok a) (hy : y = .ok b) :
    R a b := by
  cases h with
  | ok h => cases hx; cases hy; exact h
  | errors => cases hx
  | first => cases hy
  | second => cases hx

theorem isOk_eq (h : Agree R strict x y) (hs : strict) : x.isOk = y.isOk := by
  cases h with
  | ok => rfl
  | errors => rfl
  | first h => exact absurd hs h
  | second h => exact absurd hs h

theorem mapM {ι : Type} {f : ι → Except Error α} {g : ι → Except Error β} {l : List ι}
    (h : ∀ i ∈ l, Agree R strict (f i) (g i)) :
    Agree (List.Forall₂ R) strict (l.mapM f) (l.mapM g) := by
  induction l with
  | nil => exact .ok .nil
  | cons i l ih =>
    rw [List.mapM_cons, List.mapM_cons]
    refine (h i List.mem_cons_self).bind fun a b hab => ?_
    exact (ih fun j hj => h j (List.mem_cons_of_mem _ hj)).bind fun as bs hs => .ok (.cons hab hs)

end Agree

end QueryShorthand
