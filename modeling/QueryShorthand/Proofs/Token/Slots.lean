import QueryShorthand.Token.Sequence

/-! Sequences succeed exactly on items that alternate with combinators. -/
namespace QueryShorthand.Slot

variable {α : Type} {slots rest : List (Slot (Except Error α))} {before : Option Text}
  {xs ys : List α}

/-- Items and combinators alternate, and the items read as `xs`. -/
inductive Alternates : Option Text → List (Slot (Except Error α)) → List α → Prop where
  | last {before : Option Text} {read : Option Text → Except Error α} {x : α}
      (h : read before = .ok x) : Alternates before [.item read] [x]
  | more {before : Option Text} {read : Option Text → Except Error α} {x : α} {s : Text}
      {rest : List (Slot (Except Error α))} {xs : List α} (h : read before = .ok x)
      (hr : Alternates (some s) rest xs) :
      Alternates before (.item read :: .mark s :: rest) (x :: xs)

theorem itemsAfter_of_alternates (h : Alternates before slots xs) :
    itemsAfter before slots = .ok xs := by
  induction h with
  | last h =>
    rw [itemsAfter, h]
    rfl
  | more h _ ih =>
    rw [itemsAfter, h]
    simp only [bind, Except.bind, ih]
    rfl

theorem alternates_of_itemsAfter (h : itemsAfter before slots = .ok xs) :
    Alternates before slots xs := by
  fun_induction itemsAfter before slots generalizing xs with
  | case1 => cases h
  | case2 => cases h
  | case3 before read rest ih =>
    cases hx : read before with
    | error e => simp [hx, bind, Except.bind] at h
    | ok x =>
      simp only [hx, bind, Except.bind] at h
      match rest with
      | [] =>
        cases h
        exact .last hx
      | .mark s :: rest' =>
        cases hs : itemsAfter (some s) rest' with
        | error e => simp [hs] at h
        | ok ys =>
          simp only [hs] at h
          cases h
          exact .more hx (ih hs)
      | .item _ :: _ => cases h

theorem itemsAfter_eq_ok_iff : itemsAfter before slots = .ok xs ↔ Alternates before slots xs :=
  ⟨alternates_of_itemsAfter, itemsAfter_of_alternates⟩

theorem items_eq_ok_iff :
    items slots = .ok xs ↔ (slots = [] ∧ xs = []) ∨ Alternates none slots xs := by
  cases slots with
  | nil =>
    refine ⟨fun h => .inl ⟨rfl, by cases h; rfl⟩, ?_⟩
    rintro (⟨-, rfl⟩ | h)
    · rfl
    · cases h
  | cons s slots => simp [items, itemsAfter_eq_ok_iff]

theorem Alternates.ne_nil (h : Alternates before slots xs) : slots ≠ [] ∧ xs ≠ [] := by
  cases h <;> simp

theorem Alternates.append {s : Text} (h : Alternates before slots xs)
    (h' : Alternates (some s) rest ys) :
    Alternates before (slots ++ .mark s :: rest) (xs ++ ys) := by
  induction h with
  | last h => exact .more h h'
  | more h _ ih => exact .more h ih

theorem Alternates.exists_item (h : Alternates before slots xs) :
    ∀ x ∈ xs, ∃ read b, Slot.item read ∈ slots ∧ read b = .ok x := by
  induction h with
  | @last before read x h =>
    intro y hy
    obtain rfl := List.mem_singleton.1 hy
    exact ⟨read, before, List.mem_singleton.2 rfl, h⟩
  | @more before read x s rest xs h _ ih =>
    intro y hy
    rcases List.mem_cons.1 hy with rfl | hy
    · exact ⟨read, before, List.mem_cons_self, h⟩
    · obtain ⟨r, b, hm, hr⟩ := ih y hy
      exact ⟨r, b, List.mem_cons_of_mem _ (List.mem_cons_of_mem _ hm), hr⟩

theorem exists_item_of_items (h : items slots = .ok xs) :
    ∀ x ∈ xs, ∃ read b, Slot.item read ∈ slots ∧ read b = .ok x := by
  rcases items_eq_ok_iff.1 h with ⟨-, rfl⟩ | h
  · simp
  · exact h.exists_item

end QueryShorthand.Slot
