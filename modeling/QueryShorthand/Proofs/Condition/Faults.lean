import QueryShorthand.Condition.Reader
import QueryShorthand.Proofs.Agreement
import QueryShorthand.Proofs.Operand.Reading

/-! Reading a condition fails for the form of its text only, and so never for an array. -/
namespace QueryShorthand

namespace Error

def isForm : Error → Bool
  | cut .. | combinator _ | malformedClip _ | doubleAuto _ | jsonPath _ | operand _ => true
  | _ => false

def isArray : Error → Bool
  | arrayText _ | pairExpected _ | pairLength .. => true
  | _ => false

theorem not_isArray_of_isForm {err : Error} (h : err.isForm = true) : err.isArray = false := by
  cases err with
  | arrayText | pairExpected | pairLength => cases h
  | _ => rfl

end Error

/-- If there is no result, then for the form of a text. -/
def OnlyForm {α : Type} (x : Except Error α) : Prop := ∀ err, x = .error err → err.isForm = true

namespace OnlyForm

variable {α β : Type} {x : Except Error α}

theorem ok (a : α) : OnlyForm (.ok a) := by
  intro err h
  cases h

theorem error {err : Error} (h : err.isForm = true) : OnlyForm (.error err : Except Error α) := by
  intro err' h'
  obtain rfl := Except.error.inj h'
  exact h

theorem bind {f : α → Except Error β} (hx : OnlyForm x) (hf : ∀ a, x = .ok a → OnlyForm (f a)) :
    OnlyForm (x >>= f) := by
  intro err h
  rcases error_or_exists_of_bind_eq_error h with hx' | ⟨a, ha, hfa⟩
  · exact hx err hx'
  · exact hf a ha err hfa

theorem map {f : α → β} (hx : OnlyForm x) : OnlyForm (x.map f) := by
  intro err h
  exact hx err (eq_error_of_map_eq_error h)

end OnlyForm

theorem onlyForm_assemble {fail : Stop → Error} (hfail : ∀ s, (fail s).isForm = true)
    {stop : Option Stop} {stack : List (Text × Level)} {level : Level} {pieces : List Piece} :
    OnlyForm (Token.assemble .ok fail stop stack level pieces) := by
  have hflushed (level : Level) : OnlyForm (level.flushed .ok) := by
    unfold Level.flushed
    split
    · exact .ok _
    · split
      · exact .ok _
      · exact (OnlyForm.ok _).map
  fun_induction Token.assemble (.ok : Text → Except Error Text) fail stop stack level pieces with
  | case1 => exact .error (hfail _)
  | case2 => exact .error (hfail _)
  | case3 => exact hflushed _
  | case6 _ _ _ _ e he | case11 _ _ _ _ _ _ e he => exact .error (hflushed _ e he)
  | case8 | case10 => exact .error (hfail _)
  | case4 _ _ _ _ ih | case5 _ _ _ _ ih | case7 _ _ _ _ _ _ ih | case9 _ _ _ _ _ ih
    | case12 _ _ _ _ _ _ _ _ ih => exact ih

theorem onlyForm_read (delimiters : List Text) (input : Text) :
    OnlyForm (Token.read delimiters input) :=
  onlyForm_assemble fun _ => rfl

theorem onlyForm_split (operators : List Text) (clip : Text) :
    OnlyForm (Clip.split operators clip) := by
  unfold Clip.split
  simp only
  split
  · exact .error rfl
  · exact .ok _

def OnlyFormItems {α : Type} (slots : List (Slot (Except Error α))) : Prop :=
  ∀ read, .item read ∈ slots → ∀ before, OnlyForm (read before)

theorem onlyForm_itemsAfter {α : Type} {slots : List (Slot (Except Error α))}
    (h : OnlyFormItems slots) (before : Option Text) : OnlyForm (Slot.itemsAfter before slots) := by
  fun_induction Slot.itemsAfter before slots with
  | case1 => exact .error rfl
  | case2 => exact .error rfl
  | case3 before read rest ih =>
    refine .bind (h read List.mem_cons_self before) fun x _ => ?_
    cases rest with
    | nil => exact .ok _
    | cons slot rest =>
      cases slot with
      | item _ => exact .error rfl
      | mark s =>
        have hrest : OnlyFormItems rest := by
          intro read hread
          exact h read (List.mem_cons_of_mem _ (List.mem_cons_of_mem _ hread))
        exact .bind (ih hrest) fun _ _ => .ok _

theorem onlyForm_items {α : Type} {slots : List (Slot (Except Error α))} (h : OnlyFormItems slots) :
    OnlyForm (Slot.items slots) := by
  cases slots with
  | nil => exact .ok _
  | cons slot slots => exact onlyForm_itemsAfter h none

theorem Column.onlyForm_read? (t : Text) : OnlyForm (Column.read? t) := by
  have hpath (c : Column) (scalar : Bool) (t : Text) : OnlyForm (c.withPath scalar t) := by
    unfold Column.withPath
    split
    · exact .ok _
    · split
      · exact .ok _
      · exact .error rfl
  unfold Column.read?
  simp only
  split
  · exact .ok _
  · split
    · exact .ok _
    · exact hpath _ _ _
    · exact hpath _ _ _
    · exact hpath _ _ _
    · exact .ok _

namespace Operand

theorem onlyForm_simple? (t : Text) : OnlyForm (simple? t) := by
  unfold simple?
  by_cases ht : t = []
  · rw [if_pos ht]
    exact .error rfl
  · rw [if_neg ht]
    by_cases hauto : t = ['?']
    · rw [if_pos hauto]
      exact .ok _
    · rw [if_neg hauto]
      split
      · exact .ok _
      · iterate 4
          split
          · exact .ok _
        split
        · next e he => exact .error (Column.onlyForm_read? t e he)
        · split
          · exact .error rfl
          · exact .ok _
        · exact .ok _

theorem onlyForm_read (t : Text) : OnlyForm (read t) := by
  induction hn : t.length using Nat.strongRecOn generalizing t with
  | ind n ih =>
    rw [read_eq]
    cases hs : simple? t.trim with
    | error e => exact .error (onlyForm_simple? _ e hs)
    | ok o =>
      cases o with
      | some o => exact .ok _
      | none =>
        cases hc : call? t.trim with
        | none => exact .error rfl
        | some p =>
          obtain ⟨name, args⟩ := p
          refine OnlyForm.map (.bind (QueryShorthand.onlyForm_read _ _) fun tokens ht => ?_)
          -- the arguments are shorter than the call
          refine onlyForm_items fun read' hread before => ?_
          obtain ⟨token, htok, hslot⟩ := List.mem_map.1 hread
          cases token with
          | combinator s => cases hslot
          | group lead ts tail =>
            cases hslot
            exact .error rfl
          | leaf leaf =>
            cases hslot
            have hleaf := Token.length_le_of_read ht htok
            have hcall := length_lt_of_call? hc
            have htrim := Text.length_trim_le t
            have hread := ih leaf.length (by omega) leaf rfl
            show OnlyForm (argument leaf)
            unfold argument
            split
            · next e he => exact .error (Column.onlyForm_read? leaf e he)
            · split
              · exact .ok _
              · exact hread
            · exact hread

end Operand

namespace Expr

theorem onlyForm_ofBody (clip body : Text) : OnlyForm (ofBody clip body) := by
  refine .bind (onlyForm_split _ _) fun parts _ => ?_
  split
  · exact .bind (Operand.onlyForm_read _) fun _ _ => .ok _
  · split
    · exact .error rfl
    · refine .bind (Operand.onlyForm_read _) fun l _ =>
        .bind (Operand.onlyForm_read _) fun r _ => ?_
      unfold comparison
      split
      · exact .error rfl
      · split
        · exact .ok _
        · exact .ok _
  · exact .error rfl

theorem onlyForm_ofSlots {slots : List (Slot (Except Error Item))} (h : OnlyFormItems slots) :
    OnlyForm (ofSlots slots) := by
  refine .bind (onlyForm_items h) fun items _ => ?_
  split
  · exact .ok _
  · exact .ok _

theorem onlyForm_ofGroup {inner : List (Slot (Except Error Item))} (h : OnlyFormItems inner)
    (written lead tail : Text) : OnlyForm (ofGroup written lead tail inner) := by
  unfold ofGroup
  split
  · exact .error rfl
  · split
    · exact .error rfl
    · split
      · next e he => exact .error (onlyForm_ofSlots h e he)
      · exact .error rfl
      · exact .ok _

theorem onlyFormItems_slots : ∀ tokens : List Token, OnlyFormItems (slots tokens)
  | t :: tokens => by
    intro read h before
    rw [slots] at h
    rcases List.mem_cons.1 h with h | h
    · cases t with
      | combinator s => cases h
      | leaf t =>
        cases h
        exact (onlyForm_ofBody _ _).map.map
      | group lead inner tail =>
        cases h
        exact (onlyForm_ofGroup (onlyFormItems_slots inner) _ _ _).map
    · exact onlyFormItems_slots tokens read h before
  | [] => fun _ h => by cases h

end Expr

/-- Reading a condition looks at its form alone. -/
theorem Condition.onlyForm_read (source : Text) : OnlyForm (Condition.read source) := by
  refine .bind (QueryShorthand.onlyForm_read _ _) fun tokens _ => ?_
  exact .bind (Expr.onlyForm_ofSlots (Expr.onlyFormItems_slots tokens)) fun _ _ => .ok _

end QueryShorthand
