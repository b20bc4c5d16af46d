import QueryShorthand.Proofs.Operand.Names
import QueryShorthand.Statement.Select

/-! Where an item of a select list is cut from its label. A name that reads like a label is not cut.
-/
namespace QueryShorthand

namespace Text

variable {q : Char} {m : Bool} {t s r : Text}

theorem exists_of_quotedRest? (h : quotedRest? q m t = some (s, r)) : ∃ u, t = u ++ q :: r := by
  obtain ⟨-, u, -, ht⟩ := quotation_of_quotedRest? h
  exact ⟨u, ht⟩

theorem length_le_of_quotedRest? {d : Char} {x tail : Text} (hd : d ≠ '\\')
    (h : quotedRest? q m (x ++ d :: q :: tail) = some (s, r)) : tail.length ≤ r.length := by
  obtain ⟨hq, u, hu, ht⟩ := quotation_of_quotedRest? h
  rcases List.append_eq_append_iff.1 ht with ⟨y, rfl, hy⟩ | ⟨y, rfl, hy⟩
  · -- the closing quote stands behind `x`, so it is this one
    rcases y with _ | ⟨e, _ | ⟨e', y⟩⟩
    · obtain ⟨-, rfl⟩ := List.cons.inj hy
      exact Nat.le_succ _
    · obtain rfl := (List.cons.inj (List.cons.inj hy).2).2
      exact Nat.le_refl _
    · obtain ⟨rfl, htail⟩ := List.cons.inj hy
      obtain rfl : q = e' := (List.cons.inj htail).1
      exact absurd (hu.eq_backslash hq rfl) hd
  · have hlength := congrArg List.length hy
    simp only [List.length_append, List.length_cons] at hlength
    omega

end Text

namespace Select

variable {t u v w label name : Text}

theorem wholeName_cases {multiline : Bool} (h : Name.whole? multiline t = some name) :
    (t ≠ [] ∧ ∀ c ∈ t, isWordChar c = true) ∨
      ∃ r, t = '\x60' :: r ∧ Text.quotedRest? backtick multiline r = some (name, []) := by
  have hread : Name.read? multiline t = some (name, []) := by
    unfold Name.whole? at h
    split at h
    · next hread =>
      cases h
      exact hread
    · cases h
  have hname := Name.ne_nil_of_read? hread
  unfold Name.read? at hread
  split at hread
  · next r =>
    refine .inr ⟨r, rfl, ?_⟩
    split at hread
    · cases hread
    · exact hread
  · have htext := Name.eq_append_of_word? hread
    rw [List.append_nil] at htext
    rw [htext]
    exact .inl ⟨hname, List.all_eq_true.1 (all_isWordChar_of_word? hread)⟩

theorem labelName?_cases (h : labelName? t = some label) :
    (t ≠ [] ∧ ∀ c ∈ t, isWordChar c = true) ∨
      ∃ r, t = '\x60' :: r ∧ Text.quotedRest? backtick true r = some (label, []) := by
  cases t with
  | nil => cases h
  | cons c r =>
    rw [labelName?] at h
    split at h
    · next hc =>
      split at h
      · next hr =>
        refine .inl ⟨by simp, List.forall_mem_cons.2 ⟨?_, List.all_eq_true.1 hr⟩⟩
        rcases hc with rfl | rfl <;> decide +kernel
      · cases h
    · exact wholeName_cases h

theorem ends_of_labelName? (h : labelName? t = some label) :
    ∃ c, t.getLast? = some c ∧ (isWordChar c = true ∨ c = '\x60') := by
  rcases labelName?_cases h with ⟨hne, hword⟩ | ⟨r, rfl, hr⟩
  · exact ⟨_, List.getLast?_eq_some_getLast hne, .inl (hword _ (List.getLast_mem hne))⟩
  · obtain ⟨u, rfl⟩ := Text.exists_of_quotedRest? hr
    refine ⟨backtick, ?_, .inr rfl⟩
    rw [← List.cons_append, List.getLast?_concat]

/-- Backticks that follow a character other than a backslash end the label, or begin it. -/
theorem labelName?_of_tail {d : Char} {tail : Text} (hd : isWordChar d = false)
    (hne : d ≠ '\\' ∧ d ≠ '\x60') (ht : tail ≠ []) :
    labelName? (u ++ d :: '\x60' :: tail) = none := by
  cases h : labelName? (u ++ d :: '\x60' :: tail) with
  | none => rfl
  | some label =>
    rcases labelName?_cases h with ⟨-, hword⟩ | ⟨r, heq, hr⟩
    · have hd' := hword d (by simp)
      rw [hd] at hd'
      cases hd'
    · cases u with
      | nil => exact absurd (List.cons.inj heq).1 hne.2
      | cons c u =>
        obtain ⟨-, rfl⟩ := List.cons.inj heq
        have hle := Text.length_le_of_quotedRest? hne.1 hr
        rw [List.length_nil, Nat.le_zero, List.length_eq_zero_iff] at hle
        exact absurd hle ht

theorem exists_of_labelRest? (h : labelRest? t = some label) :
    ∃ u c v, t = u ++ c :: v ∧ isBlank c = true ∧ labelName? v = some label := by
  unfold labelRest? at h
  split at h
  · next a s r hhead htrim =>
    split at h
    · next hkeyword =>
      obtain ⟨b, c, hc, hr⟩ := Text.exists_blank (Bool.and_eq_true_iff.1 hkeyword).2
      refine ⟨t.takeWhile isBlank ++ a :: s :: b, c, _, ?_, hc, h⟩
      calc t = t.takeWhile isBlank ++ t.trimStart := List.takeWhile_append_dropWhile.symm
        _ = t.takeWhile isBlank ++ a :: s :: (b ++ c :: Text.trimStart r) := by rw [htrim, ← hr]
        _ = _ := by simp
    · cases h
  · cases h

/-- Behind no blank of the text stands a label. -/
def Unlabelled (t : Text) : Prop :=
  ∀ u c v, t = u ++ c :: v → isBlank c = true → labelName? v = none

theorem splitLabel?_of_unlabelled (h : Unlabelled t) : splitLabel? t = none := by
  induction t with
  | nil => rfl
  | cons c t ih =>
    have ht : Unlabelled t := fun u d v heq hd => h (c :: u) d v (by rw [heq, List.cons_append]) hd
    have hlabel : labelRest? t = none := by
      cases hr : labelRest? t with
      | none => rfl
      | some label =>
        obtain ⟨u, d, v, heq, hd, hv⟩ := exists_of_labelRest? hr
        rw [ht u d v heq hd] at hv
        cases hv
    rw [splitLabel?, hlabel]
    simp [ih ht]

theorem unlabelled_of_not_blank (h : ∀ c ∈ t, isBlank c = false) : Unlabelled t := by
  intro u c v heq hc
  have hblank := h c (by simp [heq])
  rw [hc] at hblank
  cases hblank

theorem unlabelled_of_last {d : Char} (h : t.getLast? = some d) (hd : isWordChar d = false)
    (hq : d ≠ '\x60') :
    Unlabelled t := by
  intro u c v heq hc
  cases hv : labelName? v with
  | none => rfl
  | some label =>
    obtain ⟨e, he, hlast⟩ := ends_of_labelName? hv
    have hsame : t.getLast? = some e := by
      rw [heq, List.getLast?_append, List.getLast?_cons, he]
      rfl
    obtain rfl : d = e := Option.some.inj (h.symm.trans hsame)
    rcases hlast with hword | rfl
    · rw [hd] at hword
      cases hword
    · exact absurd rfl hq

variable {p : Text} {c : Char}

theorem before_or_behind_point (hu : u = [] ∨ ∃ s, u = s ++ ['.']) (hc : c ≠ '.')
    (h : u ++ t = p ++ c :: v) :
    (∃ x, v = x ++ '.' :: t) ∨ ∃ x, t = x ++ c :: v := by
  rcases List.append_eq_append_iff.1 h with ⟨x, -, ht⟩ | ⟨x, hx, hv⟩
  · exact .inr ⟨x, ht⟩
  · cases x with
    | nil => exact .inr ⟨[], hv.symm⟩
    | cons e x =>
      obtain ⟨rfl, rfl⟩ := List.cons.inj hv
      rcases hu with rfl | ⟨s, rfl⟩
      · simp at hx
      · rcases List.eq_nil_or_concat x with rfl | ⟨x, d, rfl⟩
        · exact absurd (List.cons.inj (List.append_inj' hx rfl).2).1.symm hc
        · rw [List.concat_eq_append, ← List.cons_append, ← List.append_assoc] at hx
          obtain rfl : '.' = d := (List.cons.inj (List.append_inj' hx rfl).2).1
          exact .inl ⟨x, by simp⟩

theorem labelName?_of_pointed (x : Text) (h : Name.IsWord t) :
    labelName? (x ++ '.' :: t) = none := by
  cases hv : labelName? (x ++ '.' :: t) with
  | none => rfl
  | some label =>
    exfalso
    rcases labelName?_cases hv with ⟨-, hword⟩ | ⟨r, hr, hquoted⟩
    · exact absurd (hword '.' (by simp)) (by decide)
    · obtain ⟨z, rfl⟩ := Text.exists_of_quotedRest? hquoted
      obtain ⟨y, d, rfl⟩ := (List.eq_nil_or_concat t).resolve_left (Name.solid_of_isWord h).ne_nil
      have hd : d = backtick := by
        have hlast := congrArg List.getLast? hr
        simpa [List.getLast?_append, List.getLast?_cons] using hlast
      have hword := h.isWordChar d (by simp)
      rw [hd] at hword
      exact absurd hword (by decide)

/-- Inside backticks no label stands behind a blank: a backtick there has a backslash in front of
it. -/
theorem labelName?_of_escape (h : Text.escape backtick name ++ [backtick] = p ++ c :: v)
    (hc : isBlank c = true) : labelName? v = none := by
  have closing {y : Text} {e : Char} (hv : v = y ++ [e]) :
      e = backtick ∧ Text.escape backtick name = p ++ c :: y := by
    rw [hv, ← List.cons_append, ← List.append_assoc] at h
    obtain ⟨hescape, he⟩ := List.append_inj' h rfl
    exact ⟨(List.cons.inj he).1.symm, hescape⟩
  cases hv : labelName? v with
  | none => rfl
  | some label =>
    exfalso
    rcases labelName?_cases hv with ⟨hne, hword⟩ | ⟨r, rfl, hquoted⟩
    · obtain ⟨y, e, hy⟩ := (List.eq_nil_or_concat v).resolve_left hne
      rw [List.concat_eq_append] at hy
      obtain ⟨rfl, -⟩ := closing hy
      exact absurd (hword backtick (by simp [hy])) (by decide)
    · obtain ⟨z, rfl⟩ := Text.exists_of_quotedRest? hquoted
      obtain ⟨-, hescape⟩ := closing (List.cons_append ..).symm
      have hname : Text.Quotation backtick true name (Text.escape backtick name) :=
        Text.quotation_escape (by decide) name
      obtain rfl := hname.eq_backslash (by decide) hescape
      exact absurd hc (by decide)

/-- A name is not cut, not even where it reads like a label, nor is the qualifier in front of its
point. -/
theorem unlabelled_name (hu : u = [] ∨ ∃ s, u = s ++ ['.']) (h : Name.Writes name t) :
    Unlabelled (u ++ t) := by
  intro p c v heq hc
  have hpoint : c ≠ '.' := by
    rintro rfl
    exact absurd hc (by decide)
  have hplace := before_or_behind_point hu hpoint heq
  cases h with
  | bare h =>
    rcases hplace with ⟨x, rfl⟩ | ⟨x, rfl⟩
    · exact labelName?_of_pointed x h
    · have hblank := isBlank_of_isWordChar (h.isWordChar c (by simp))
      rw [hc] at hblank
      cases hblank
  | quoted h =>
    rcases hplace with ⟨x, rfl⟩ | ⟨x, hx⟩
    · exact labelName?_of_tail (by decide) (by decide) (by simp)
    · cases x with
      | nil =>
        obtain rfl : backtick = c := (List.cons.inj hx).1
        exact absurd hc (by decide)
      | cons d x => exact labelName?_of_escape (List.cons.inj hx).2 hc

def labelText (label : Text) : Text := " AS ".toList ++ Text.quoted backtick label

theorem labelText_eq (label : Text) :
    labelText label = ' ' :: 'A' :: 'S' :: ' ' :: '\x60' ::
      (Text.escape backtick label ++ ['\x60']) := rfl

theorem labelRest?_label (h : label ≠ []) : labelRest? (labelText label) = some label := by
  have hname : labelName? (Text.quoted backtick label) = some label :=
    Name.whole?_writes true (.quoted h)
  exact hname

theorem labelName?_ahead (x label : Text) :
    labelName? (Text.trimStart (x ++ (labelText label).tail)) = none := by
  have htext : Text.trimStart (x ++ (labelText label).tail) =
      (x.trimStart ++ ['A', 'S']) ++ ' ' :: '\x60' :: (Text.escape backtick label ++ ['\x60']) := by
    rw [labelText_eq, List.tail_cons, Text.trimStart_append_cons x (by decide)]
    simp
  rw [htext]
  exact labelName?_of_tail (by decide) (by decide) (by simp)

theorem labelRest?_none {d : Char} (hd : isBlank d = false) :
    labelRest? (w ++ d :: labelText label) = none := by
  have hlabel : labelText label = ' ' :: (labelText label).tail := rfl
  unfold labelRest?
  split
  · next a s r hhead htrim =>
    rw [Text.trimStart_append_cons w hd, hlabel] at htrim
    have hrest : s = ' ' ∨ ∃ x, r = x ++ (labelText label).tail := by
      generalize w.trimStart = u at htrim
      rcases u with _ | ⟨e, _ | ⟨e', x⟩⟩
      · exact .inl (List.cons.inj (List.cons.inj htrim).2).1.symm
      · exact .inr ⟨[' '], (List.cons.inj (List.cons.inj htrim).2).2.symm⟩
      · refine .inr ⟨x ++ [d, ' '], ?_⟩
        rw [List.append_assoc]
        exact (List.cons.inj (List.cons.inj htrim).2).2.symm
    rcases hrest with rfl | ⟨x, rfl⟩
    · simp [isAs]
    · rw [labelName?_ahead]
      simp
  · rfl

theorem splitLabel?_label {d : Char} (hlast : w.getLast? = some d) (hd : isBlank d = false)
    (h : label ≠ []) :
    splitLabel? (w ++ labelText label) = some (w, label) := by
  obtain ⟨w, rfl⟩ := List.getLast?_eq_some_iff.1 hlast
  clear hlast
  rw [List.append_assoc, List.singleton_append]
  induction w with
  | nil => rw [List.nil_append, splitLabel?, labelRest?_label h, List.nil_append]
  | cons c w ih =>
    rw [List.cons_append, splitLabel?, labelRest?_none hd, ih, Option.map_some, List.cons_append]

end Select

end QueryShorthand
