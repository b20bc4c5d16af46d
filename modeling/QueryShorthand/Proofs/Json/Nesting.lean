import QueryShorthand.Json.Reader

/-! The depth of documents that are read, and the order of their keys. -/
namespace QueryShorthand.Json

variable {lenient : Bool} {depth fuel : Nat} {t r : Text}

mutual

/-- The document is nested at most `depth` deep; the keys of its objects ascend. -/
def Nests : Nat → Json → Prop
  | depth, array items => 0 < depth ∧ NestsAll (depth - 1) items
  | depth, object members => 0 < depth ∧ Ascending members ∧ NestsMembers (depth - 1) members
  | _, _ => True

def NestsAll : Nat → List Json → Prop
  | _, [] => True
  | depth, j :: js => Nests depth j ∧ NestsAll depth js

def NestsMembers : Nat → List (Text × Json) → Prop
  | _, [] => True
  | depth, (_, j) :: ms => Nests depth j ∧ NestsMembers depth ms

end

theorem nestsMembers_iff {ms : List (Text × Json)} :
    NestsMembers depth ms ↔ ∀ m ∈ ms, Nests depth m.2 := by
  induction ms with
  | nil => simp [NestsMembers]
  | cons m ms ih => simp [NestsMembers, ih]

theorem nests_ofMembers {ms : List (Text × Json)} (h : NestsMembers depth ms) :
    Nests (depth + 1) (ofMembers ms) := by
  have insertAll : ∀ (ms l : List (Text × Json)), NestsMembers depth ms → Ascending l →
      NestsMembers depth l → Ascending (ms.foldl (fun l e => insertKey e.1 e.2 l) l) ∧
        NestsMembers depth (ms.foldl (fun l e => insertKey e.1 e.2 l) l) := by
    intro ms
    induction ms with
    | nil => exact fun l _ ha hl => ⟨ha, hl⟩
    | cons m ms ih =>
      intro l hms ha hl
      refine ih _ hms.2 (ascending_insertKey ha) (nestsMembers_iff.2 fun e he => ?_)
      rcases mem_insertKey he with rfl | he
      · exact hms.1
      · exact nestsMembers_iff.1 hl e he
  obtain ⟨ha, hn⟩ := insertAll ms [] h .nil trivial
  exact ⟨Nat.succ_pos _, ha, hn⟩

/-- What the readers with this much fuel read fits the depth that they were given. -/
structure ReadsNested (lenient : Bool) (fuel : Nat) : Prop where
  value : ∀ {depth : Nat} {t r : Text} {j : Json},
    value? lenient fuel depth t = some (j, r) → Nests depth j
  items : ∀ {depth : Nat} {t r : Text} {js : List Json},
    items? lenient fuel depth t = some (js, r) → NestsAll depth js
  members : ∀ {depth : Nat} {t r : Text} {ms : List (Text × Json)},
    members? lenient fuel depth t = some (ms, r) → NestsMembers depth ms

theorem ReadsNested.value_succ (ih : ReadsNested lenient fuel) {j : Json}
    (h : value? lenient (fuel + 1) depth t = some (j, r)) : Nests depth j := by
  rw [value?] at h
  split at h
  · cases h
    trivial
  · cases h
    trivial
  · cases h
    trivial
  · obtain ⟨p, -, h⟩ := Option.map_eq_some_iff.1 h
    cases h
    trivial
  -- an array and an object are one level deeper than what they hold
  · cases depth with
    | zero => cases h
    | succ depth =>
      dsimp only at h
      split at h
      · cases h
        exact ⟨Nat.succ_pos _, trivial⟩
      · obtain ⟨p, hp, h⟩ := Option.map_eq_some_iff.1 h
        cases h
        exact ⟨Nat.succ_pos _, ih.items hp⟩
  · cases depth with
    | zero => cases h
    | succ depth =>
      dsimp only at h
      split at h
      · cases h
        exact ⟨Nat.succ_pos _, .nil, trivial⟩
      · obtain ⟨p, hp, h⟩ := Option.map_eq_some_iff.1 h
        cases h
        exact nests_ofMembers (ih.members hp)
  · obtain ⟨p, -, h⟩ := Option.map_eq_some_iff.1 h
    cases h
    trivial

theorem ReadsNested.items_succ (ih : ReadsNested lenient fuel) {js : List Json}
    (h : items? lenient (fuel + 1) depth t = some (js, r)) : NestsAll depth js := by
  rw [items?] at h
  split at h
  · cases h
  · next j r' hj =>
    split at h
    · cases h
      exact ⟨ih.value hj, trivial⟩
    · obtain ⟨p, hp, h⟩ := Option.map_eq_some_iff.1 h
      cases h
      exact ⟨ih.value hj, ih.items hp⟩
    · cases h

theorem ReadsNested.members_succ (ih : ReadsNested lenient fuel) {ms : List (Text × Json)}
    (h : members? lenient (fuel + 1) depth t = some (ms, r)) : NestsMembers depth ms := by
  rw [members?] at h
  split at h
  · split at h
    · cases h
    · split at h
      · split at h
        · cases h
        · next j r' hj =>
          split at h
          · cases h
            exact ⟨ih.value hj, trivial⟩
          · obtain ⟨p, hp, h⟩ := Option.map_eq_some_iff.1 h
            cases h
            exact ⟨ih.value hj, ih.members hp⟩
          · cases h
      · cases h
  · cases h

theorem readsNested (fuel : Nat) : ReadsNested lenient fuel := by
  induction fuel with
  | zero =>
    constructor
    · intro depth t r j h
      cases h
    · intro depth t r js h
      cases h
    · intro depth t r ms h
      cases h
  | succ fuel ih => exact ⟨ih.value_succ, ih.items_succ, ih.members_succ⟩

theorem nests_of_read? {j : Json} (h : read? t = some j) : Nests 127 j := by
  rw [read?] at h
  split at h
  · next j' r hv =>
    split at h
    · cases h
      exact (readsNested _).value hv
    · cases h
  · cases h

end QueryShorthand.Json
