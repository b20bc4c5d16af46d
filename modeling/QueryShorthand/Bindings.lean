import QueryShorthand.Text.Basic

/-!
Stores keyed by text. Keys are kept in ascending order, so stores that answer alike are equal, and
insertions under different keys commute.
-/

namespace QueryShorthand

/-- Puts `v` under `k` into a list with ascending keys, replacing what was there. -/
def insertKey {α : Type} (k : Text) (v : α) : List (Text × α) → List (Text × α)
  | [] => [(k, v)]
  | (k', v') :: r =>
    if k = k' then (k, v) :: r
    else if k < k' then (k, v) :: (k', v') :: r
    else (k', v') :: insertKey k v r

def Ascending {α : Type} (entries : List (Text × α)) : Prop :=
  entries.Pairwise fun a b => a.1 < b.1

theorem mem_insertKey {α : Type} {k : Text} {v : α} {l : List (Text × α)} {e : Text × α}
    (h : e ∈ insertKey k v l) : e = (k, v) ∨ e ∈ l := by
  fun_induction insertKey k v l with
  | case1 => simpa using h
  | case2 => grind
  | case3 => grind
  | case4 _ _ _ _ _ ih => grind

theorem ascending_insertKey {α : Type} {k : Text} {v : α} {l : List (Text × α)}
    (h : Ascending l) : Ascending (insertKey k v l) := by
  fun_induction insertKey k v l with
  | case1 => simp [Ascending]
  | case2 v' r =>
    simpa [Ascending] using h
  | case3 k' v' r _ hlt =>
    simp only [Ascending, List.pairwise_cons] at h ⊢
    refine ⟨?_, h⟩
    intro e he
    rcases List.mem_cons.1 he with rfl | he
    · exact hlt
    · exact List.lt_trans hlt (h.1 e he)
  | case4 k' v' r hne hnlt ih =>
    simp only [Ascending, List.pairwise_cons] at h ⊢
    refine ⟨?_, ih h.2⟩
    intro e he
    rcases mem_insertKey he with rfl | he
    · exact (List.le_iff_lt_or_eq.1 (List.not_lt.1 hnlt)).resolve_right (Ne.symm hne)
    · exact h.1 e he

theorem lookup_cons_ite {α : Type} (k : Text) (e : Text × α) (r : List (Text × α)) :
    (e :: r).lookup k = if k = e.1 then some e.2 else r.lookup k := by
  obtain ⟨a, v⟩ := e
  by_cases h : k = a
  · simp [h]
  · have hb : (k == a) = false := by simp [h]
    rw [List.lookup_cons, hb, if_neg h]

theorem lookup_insertKey {α : Type} (k k' : Text) (v : α) (l : List (Text × α)) :
    (insertKey k v l).lookup k' = if k' = k then some v else l.lookup k' := by
  fun_induction insertKey k v l with
  | case1 => simp [lookup_cons_ite]
  | case2 v' r => simp only [lookup_cons_ite]; split <;> rfl
  | case3 => simp only [lookup_cons_ite]
  | case4 _ _ _ hne _ ih =>
    simp only [lookup_cons_ite, ih]
    by_cases h : k' = k
    · subst h; simp [hne]
    · simp [h]

theorem lookup_eq_none_of_lt {α : Type} {k : Text} {l : List (Text × α)}
    (h : ∀ e ∈ l, k < e.1) : l.lookup k = none := by
  induction l with
  | nil => rfl
  | cons e r ih =>
    have hne : k ≠ e.1 := fun heq => List.lt_irrefl _ (heq ▸ h e (by simp))
    rw [lookup_cons_ite, if_neg hne, ih fun e he => h e (List.mem_cons_of_mem _ he)]

theorem Ascending.lookup_tail {α : Type} {e : Text × α} {r : List (Text × α)}
    (h : Ascending (e :: r)) : r.lookup e.1 = none :=
  lookup_eq_none_of_lt (List.pairwise_cons.1 h).1

theorem Ascending.not_lt_head {α : Type} {k : Text} {e : Text × α} {r : List (Text × α)}
    (he : Ascending (e :: r)) (h : (e :: r).lookup k ≠ none) : ¬ k < e.1 := by
  refine fun hlt => h (lookup_eq_none_of_lt fun a ha => ?_)
  rcases List.mem_cons.1 ha with rfl | ha
  · exact hlt
  · exact List.lt_trans hlt ((List.pairwise_cons.1 he).1 a ha)

theorem Ascending.eq_of_lookup_eq {α : Type} {l m : List (Text × α)} (hl : Ascending l)
    (hm : Ascending m) (h : ∀ k, l.lookup k = m.lookup k) : l = m := by
  induction l generalizing m with
  | nil =>
    cases m with
    | nil => rfl
    | cons e s => simpa [lookup_cons_ite] using h e.1
  | cons a r ih =>
    cases m with
    | nil => simpa [lookup_cons_ite] using h a.1
    | cons b s =>
      have ha := h a.1
      have hb := h b.1
      have hab : a.1 = b.1 := List.le_antisymm
        (List.not_lt.1 (hl.not_lt_head (by rw [hb]; simp [lookup_cons_ite])))
        (List.not_lt.1 (hm.not_lt_head (by rw [← ha]; simp [lookup_cons_ite])))
      have hv : a.2 = b.2 := by simpa [lookup_cons_ite, hab] using ha
      rw [Prod.ext hab hv, ih (List.pairwise_cons.1 hl).2 (List.pairwise_cons.1 hm).2]
      intro k
      by_cases hk : k = a.1
      · rw [hk, hl.lookup_tail, hab, hm.lookup_tail]
      · have hkb : k ≠ b.1 := hab ▸ hk
        simpa [lookup_cons_ite, hk, hkb] using h k

/-- A store with at most one value under each key. -/
structure Bindings (α : Type) where
  entries : List (Text × α)
  ascending : Ascending entries

namespace Bindings

variable {α : Type}

def empty : Bindings α := ⟨[], .nil⟩

instance : EmptyCollection (Bindings α) := ⟨empty⟩

def get? (b : Bindings α) (k : Text) : Option α := b.entries.lookup k

def insert (b : Bindings α) (k : Text) (v : α) : Bindings α :=
  ⟨insertKey k v b.entries, ascending_insertKey b.ascending⟩

/-- Inserts in order; of equal keys the last one counts. -/
def insertAll (b : Bindings α) (entries : List (Text × α)) : Bindings α :=
  entries.foldl (fun b e => b.insert e.1 e.2) b

def contains (b : Bindings α) (k : Text) : Bool := (b.get? k).isSome

def keys (b : Bindings α) : List Text := b.entries.map Prod.fst

def size (b : Bindings α) : Nat := b.entries.length

def isEmpty (b : Bindings α) : Bool := b.entries.isEmpty

theorem get?_empty (k : Text) : (empty : Bindings α).get? k = none := rfl

theorem get?_insert (b : Bindings α) (k k' : Text) (v : α) :
    (b.insert k v).get? k' = if k' = k then some v else b.get? k' :=
  lookup_insertKey k k' v b.entries

theorem ext_get? {a b : Bindings α} (h : ∀ k, a.get? k = b.get? k) : a = b := by
  cases a with
  | mk l hl =>
    cases b with
    | mk m hm =>
      obtain rfl : l = m := hl.eq_of_lookup_eq hm h
      rfl

theorem insert_comm (b : Bindings α) {k k' : Text} (h : k ≠ k') (v v' : α) :
    (b.insert k v).insert k' v' = (b.insert k' v').insert k v :=
  ext_get? fun x => by
    simp only [get?_insert]
    by_cases hx : x = k
    · subst hx; simp [h]
    · simp [hx]

def same (eq : α → α → Bool) (a b : Bindings α) : Bool :=
  a.keys == b.keys && (a.entries.zip b.entries).all fun p => eq p.1.2 p.2.2

end Bindings

end QueryShorthand
