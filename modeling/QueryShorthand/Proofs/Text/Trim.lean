import Mathlib.Data.List.TakeWhile
import QueryShorthand.Text.Basic

/-! Blanks around a text, and what trimming leaves of it. -/
namespace QueryShorthand.Text

def Blank (t : Text) : Prop := ∀ c ∈ t, isBlank c = true

variable {b b' t : Text} {c : Char}

theorem blank_nil : Blank [] := fun _ hc => absurd hc (by simp)

theorem Blank.append (h : Blank b) (h' : Blank b') : Blank (b ++ b') := by
  intro c hc
  rcases List.mem_append.1 hc with hc | hc
  · exact h c hc
  · exact h' c hc

theorem Blank.reverse (h : Blank b) : Blank b.reverse := fun c hc => h c (List.mem_reverse.1 hc)

theorem Blank.dropWhile (h : Blank b) (t : Text) :
    (b ++ t).dropWhile isBlank = t.dropWhile isBlank :=
  List.dropWhile_append_of_pos h

theorem Blank.trimEnd_append (h : Blank b) (t : Text) : (t ++ b).trimEnd = t.trimEnd := by
  rw [trimEnd, List.reverse_append, h.reverse.dropWhile, ← trimEnd]

theorem Blank.trimStart (h : Blank b) : b.trimStart = [] := by
  have hb := h.dropWhile []
  rwa [List.append_nil] at hb

theorem Blank.trim (h : Blank b) : b.trim = [] := by
  rw [Text.trim, h.trimStart]
  rfl

theorem trim_padded (h : Blank b) (h' : Blank b') : (b ++ (t ++ b')).trim = t.trim := by
  have hstart : (b ++ (t ++ b')).trimStart = (t ++ b').trimStart := h.dropWhile _
  rw [trim, trim, hstart]
  have hb' : b'.dropWhile isBlank = [] := h'.trimStart
  simp only [trimStart, List.dropWhile_append]
  split
  · next ht => rw [List.isEmpty_iff.1 ht, hb']
  · exact h'.trimEnd_append _

theorem trimStart_cons (h : isBlank c = false) : trimStart (c :: t) = c :: t := by
  simp [trimStart, h]

theorem trimEnd_cons (h : isBlank c = false) : trimEnd (c :: t) = c :: t.trimEnd := by
  rw [trimEnd, trimEnd, List.reverse_cons, List.dropWhile_append]
  split
  · next ht =>
    rw [List.isEmpty_iff.1 ht]
    simp [h]
  · simp

theorem trimEnd_of_last (h : t.getLast? = some c) (hb : isBlank c = false) : t.trimEnd = t := by
  obtain ⟨u, rfl⟩ := List.getLast?_eq_some_iff.1 h
  rw [trimEnd, List.reverse_append, List.reverse_singleton, List.singleton_append,
    List.dropWhile_cons_of_neg (by simp [hb]), List.reverse_cons, List.reverse_reverse]

theorem trimEnd_append_cons (s : Text) (h : isBlank c = false) :
    (s ++ c :: t).trimEnd = s ++ c :: t.trimEnd := by
  have hcons := trimEnd_cons (t := t) h
  rw [trimEnd] at hcons ⊢
  rw [List.reverse_append, List.dropWhile_append]
  split
  · next hnil =>
    rw [List.isEmpty_iff.1 hnil] at hcons
    cases hcons
  · rw [List.reverse_append, List.reverse_reverse, hcons]

theorem exists_trimEnd_append (t : Text) : ∃ b, t = t.trimEnd ++ b := by
  obtain ⟨b, hb⟩ := List.dropWhile_suffix (l := t.reverse) isBlank
  refine ⟨b.reverse, ?_⟩
  rw [trimEnd, ← List.reverse_append, hb, List.reverse_reverse]

theorem trim_cons (h : isBlank c = false) : trim (c :: t) = c :: t.trimEnd := by
  rw [trim, trimStart_cons h, trimEnd_cons h]

theorem trimStart_append_cons (s : Text) (h : isBlank c = false) :
    (s ++ c :: t).trimStart = s.trimStart ++ c :: t := by
  rw [trimStart, List.dropWhile_append]
  split
  · next hnil =>
      rw [trimStart, List.isEmpty_iff.1 hnil, List.nil_append,
        List.dropWhile_cons_of_neg (by simp [h])]
  · rfl

theorem trim_of_ends {d : Char} (hc : t.head? = some c) (hb : isBlank c = false)
    (hd : t.getLast? = some d) (hb' : isBlank d = false) : t.trim = t := by
  obtain ⟨r, rfl⟩ := List.head?_eq_some_iff.1 hc
  rw [trim, trimStart_cons hb, trimEnd_of_last hd hb']

theorem exists_blanks (t : Text) : ∃ b b', Blank b ∧ Blank b' ∧ t = b ++ (t.trim ++ b') := by
  refine ⟨t.takeWhile isBlank, (t.trimStart.reverse.takeWhile isBlank).reverse, ?_, ?_, ?_⟩
  · exact fun c hc => List.mem_takeWhile_imp hc
  · exact Blank.reverse fun c hc => List.mem_takeWhile_imp hc
  · rw [trim, trimEnd, ← List.reverse_append, List.takeWhile_append_dropWhile, List.reverse_reverse]
    exact List.takeWhile_append_dropWhile.symm

theorem exists_blank (h : t.head?.any isBlank = true) :
    ∃ b c, isBlank c = true ∧ t = b ++ c :: t.trimStart := by
  have hne : t.takeWhile isBlank ≠ [] := by
    cases t with
    | nil => cases h
    | cons d t =>
      have hd : isBlank d = true := by simpa using h
      simp [hd]
  obtain ⟨b, c, hb⟩ := (List.eq_nil_or_concat _).resolve_left hne
  refine ⟨b, c, List.mem_takeWhile_imp (by rw [hb]; simp), ?_⟩
  calc t = t.takeWhile isBlank ++ t.trimStart := List.takeWhile_append_dropWhile.symm
    _ = b ++ c :: t.trimStart := by
      rw [hb, List.concat_eq_append, List.append_assoc, List.singleton_append]

theorem trim_trim (t : Text) : t.trim.trim = t.trim := by
  obtain ⟨b, b', hb, hb', ht⟩ := exists_blanks t
  have htrim := trim_padded (t := t.trim) hb hb'
  rw [← ht] at htrim
  exact htrim.symm

end QueryShorthand.Text
