import QueryShorthand.Proofs.Operand.Writing

/-! Operands and wildcards as the items of a list, with calls inside each other. -/
namespace QueryShorthand.Operand

mutual

/-- An operand or a wildcard as it may be written among others; a function may have any word for a
name. -/
inductive Spells : Operand → Text → Prop where
  | simple {o : Operand} {t : Text} (h : Writes o t) : Spells o t
  | wildcard {c : Column} {t : Text} (h : c.Spells t) (hw : c.isWildcard = true) :
      Spells (column c) t
  | call {name t : Text} {args : List Operand} (hn : Name.IsWord name)
      (he : lastEndsWord name = true)
      (h : SpellsArguments args t) :
      Spells (call (Text.upper name) args) (name ++ '(' :: (t ++ [')']))

inductive SpellsArguments : List Operand → Text → Prop where
  | none {b : Text} (hb : b.Blank) : SpellsArguments [] b
  | last {o : Operand} {b t b' : Text} (hb : b.Blank) (h : Spells o t) (hb' : b'.Blank) :
      SpellsArguments [o] (b ++ (t ++ b'))
  | more {o o' : Operand} {os : List Operand} {b t b' u : Text} (hb : b.Blank) (h : Spells o t)
      (hb' : b'.Blank) (hs : SpellsArguments (o' :: os) u) :
      SpellsArguments (o :: o' :: os) (b ++ (t ++ b') ++ ',' :: u)

end

variable {t name : Text} {os : List Operand}

theorem item_wildcard {c : Column} (h : c.Spells t) (hw : c.isWildcard = true) :
    Item (column c) t where
  part := h.part
  argument := by
    rw [argument, h.read?]
    simp [hw]

theorem Listed.item_call (h : Listed os t) (hn : Name.IsWord name) (he : lastEndsWord name = true) :
    Item (call (Text.upper name) os) (name ++ '(' :: (t ++ [')'])) where
  part := part_of_solid (solid_call (Name.solid_of_isWord hn) he h.balanced)
  argument := by
    obtain ⟨hcolumn, hread⟩ := read_call hn (arguments_eq h)
    exact argument_of_none hcolumn hread

mutual

theorem Spells.item : ∀ {o : Operand} {t : Text}, Spells o t → Item o t
  | _, _, .simple h => h.legible.item
  | _, _, .wildcard h hw => item_wildcard h hw
  | _, _, .call hn he h => h.listed.item_call hn he

theorem SpellsArguments.listed :
    ∀ {os : List Operand} {t : Text}, SpellsArguments os t → Listed os t
  | _, _, .none hb => listed_none hb
  | _, _, .last hb h hb' => h.item.listed hb hb'
  | _, _, .more hb h hb' hs => h.item.listed_cons hb hb' (List.cons_ne_nil _ _) hs.listed

end

def IsWildcard (o : Operand) : Prop := ∃ c : Column, o = column c ∧ c.isWildcard = true

theorem Spells.read {o : Operand} (h : Spells o t) (hw : ¬ o.IsWildcard) :
    Operand.read t = .ok o := by
  cases h with
  | simple h => exact h.legible.read
  | wildcard _ hc => exact absurd ⟨_, rfl, hc⟩ hw
  | call hn _ h => exact (read_call hn (arguments_eq h.listed)).2

end QueryShorthand.Operand
