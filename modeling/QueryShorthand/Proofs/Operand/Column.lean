import QueryShorthand.Proofs.Operand.Items

/-! Columns in their written form. Only a bare name that is no word, and the word null, are not read
back. -/
namespace QueryShorthand

namespace Name

variable {name r : Text}

def Faithful (name : Text) : Prop := isPlain name = true → IsWord name

theorem writes_written (hne : name ≠ []) (h : Faithful name) : Writes name (written name) := by
  unfold written
  split
  · next hp => exact .bare (h hp)
  · exact .quoted hne

theorem ends_written (hne : name ≠ []) : ∃ c r d, written name = c :: r ∧
    isBlank c = false ∧ (c :: r).getLast? = some d ∧ isBlank d = false := by
  unfold written
  split
  · next hp =>
    rw [isPlain, Bool.and_eq_true] at hp
    obtain ⟨c, r, rfl⟩ := List.exists_cons_of_ne_nil hne
    have visible : ∀ d ∈ c :: r, isBlank d = false := by
      intro d hd
      by_contra hb
      have hends := not_endsWord_of_isBlank (Bool.not_eq_false _ ▸ hb)
      have hword : endsWord d = true := List.all_eq_true.1 hp.2 d hd
      rw [hword] at hends
      cases hends
    exact ⟨c, r, _, rfl, visible c List.mem_cons_self, List.getLast?_eq_some_getLast (by simp),
      visible _ (List.getLast_mem _)⟩
  · exact ⟨backtick, _, backtick, rfl, by decide, by simp [List.getLast?_cons], by decide⟩

theorem word?_of_not_isWord (hp : isPlain name = true) (hw : ¬ IsWord name) :
    ∃ w d v, isAlphanumeric d = true ∧ ∀ r, word? (name ++ r) = some (w, d :: (v ++ r)) := by
  rw [isPlain, Bool.and_eq_true] at hp
  obtain ⟨hhead, hall⟩ := hp
  cases name with
  | nil => cases hhead
  | cons c u =>
    have hc : isStart c = true := by simpa using hhead
    cases hd : u.dropWhile QueryShorthand.isWordChar with
    | nil =>
      have hu := List.takeWhile_append_dropWhile (p := QueryShorthand.isWordChar) (l := u)
      rw [hd, List.append_nil] at hu
      refine absurd ⟨c, u, rfl, hc, ?_⟩ hw
      rw [← hu]
      exact List.all_eq_true.1 List.all_takeWhile
    | cons d v =>
      have hu : u.takeWhile QueryShorthand.isWordChar ++ d :: v = u := by
        rw [← hd, List.takeWhile_append_dropWhile]
      have hnot : QueryShorthand.isWordChar d = false := by
        have hhead := List.head?_dropWhile_not QueryShorthand.isWordChar u
        rw [hd] at hhead
        exact hhead
      have hchar := List.all_eq_true.1 hall d (by rw [← hu]; simp)
      rw [Bool.or_eq_true, beq_iff_eq] at hchar
      have halpha : isAlphanumeric d = true := by
        refine hchar.resolve_right ?_
        rintro rfl
        revert hnot
        decide
      refine ⟨c :: u.takeWhile QueryShorthand.isWordChar, d, v, halpha, fun r => ?_⟩
      have hr : u ++ r = u.takeWhile QueryShorthand.isWordChar ++ d :: (v ++ r) := by
        rw [← List.cons_append, ← List.append_assoc, hu]
      have htaken :
          ∀ e ∈ u.takeWhile QueryShorthand.isWordChar, QueryShorthand.isWordChar e = true :=
        List.all_eq_true.1 List.all_takeWhile
      rw [List.cons_append, word?, if_pos hc, hr, List.takeWhile_append_of_pos htaken,
        List.dropWhile_append_of_pos htaken, List.takeWhile_cons_of_neg (by simp [hnot]),
        List.dropWhile_cons_of_neg (by simp [hnot]), List.append_nil]

theorem read?_of_not_isWord (multiline : Bool) (hp : isPlain name = true) (hw : ¬ IsWord name) :
    ∃ w d v, isAlphanumeric d = true ∧ ∀ r, (name ++ r).head? ≠ some '*' ∧
      read? multiline (name ++ r) = some (w, d :: (v ++ r)) := by
  obtain ⟨w, d, v, hd, hword⟩ := word?_of_not_isWord hp hw
  refine ⟨w, d, v, hd, fun r => ?_⟩
  rw [isPlain, Bool.and_eq_true] at hp
  cases name with
  | nil => cases hp.1
  | cons c u =>
    have hc : isStart c = true := by simpa using hp.1
    refine ⟨?_, ?_⟩
    · intro hstar
      cases hstar
      exact absurd hc (by decide)
    · rw [← hword, List.cons_append, read?_start multiline hc]

end Name

namespace Column

variable {q : Option Text} {name r : Text} {c : Column}

/-- The names that are written bare are words, and the column is not written as the word null. -/
structure Faithful (c : Column) : Prop where
  qualifier : ∀ q, c.qualifier = some q → Name.Faithful q
  name : Name.Faithful c.name
  notNull : Operand.isNullWord c.written = false

def writtenPath : Option Path → Text
  | some p => arrow p.scalar ++ Text.quoted '\'' p.text
  | none => []

def writtenName (name : Text) : Text := if name = ['*'] then ['*'] else Name.written name

theorem written_unqualified (name : Text) (path : Option Path) :
    written ⟨none, name, path⟩ = writtenName name ++ writtenPath path := by
  cases path <;> simp [written, isWildcard, writtenName, writtenPath]

theorem written_qualified (q name : Text) (path : Option Path) :
    written ⟨some q, name, path⟩ =
      Name.written q ++ '.' :: (writtenName name ++ writtenPath path) := by
  cases path <;> simp [written, isWildcard, writtenName, writtenPath]

theorem written_path (q : Option Text) (name : Text) (p : Path) :
    written ⟨q, name, some p⟩ = written ⟨q, name, none⟩ ++ writtenPath (some p) := by
  cases q <;> simp [written_unqualified, written_qualified, writtenPath]

theorem writes_written (hf : c.Formed) (h : c.Faithful) (hw : c.isWildcard = false) :
    c.Writes c.written := by
  obtain ⟨q, name, path⟩ := c
  have hstar : name ≠ ['*'] := by simpa [isWildcard] using hw
  have hname : writtenName name = Name.written name := if_neg hstar
  have plain : Writes ⟨q, name, none⟩ (written ⟨q, name, none⟩) := by
    have hlast := Name.writes_written hf.name h.name
    cases q with
    | none =>
      rw [written_unqualified, hname, writtenPath, List.append_nil]
      exact .plain hlast hstar
    | some q =>
      rw [written_qualified, hname, writtenPath, List.append_nil]
      exact .qualified (Name.writes_written (hf.qualifier q rfl) (h.qualifier q rfl)) hlast hstar
  cases path with
  | none => exact plain
  | some p =>
    rw [written_path]
    exact .path plain (hf.path p rfl)

open Operand (Entry)

theorem spells_wildcard (hf : c.Formed) (hq : ∀ q, c.qualifier = some q → Name.Faithful q)
    (hw : c.isWildcard = true) : Spells c c.written := by
  obtain ⟨q, name, path⟩ := c
  obtain rfl : name = ['*'] := by simpa [isWildcard] using hw
  have plain : Spells ⟨q, ['*'], none⟩ (written ⟨q, ['*'], none⟩) := by
    cases q with
    | none => exact .plain .star
    | some q =>
      rw [written_qualified]
      exact .qualified (Name.writes_written (hf.qualifier q rfl) (hq q rfl)) .star
  cases path with
  | none => exact plain
  | some p =>
    rw [written_path]
    exact .path plain (hf.path p rfl)

theorem written_wildcard (hf : c.Formed) (hq : ∀ q, c.qualifier = some q → Name.Faithful q)
    (hw : c.isWildcard = true) : read? c.written = .ok (some c) ∧ Entry c.written :=
  ⟨(spells_wildcard hf hq hw).read?, (spells_wildcard hf hq hw).part.toEntry⟩

theorem read?_eq_none {t w v : Text} {d : Char} (hd : isAlphanumeric d = true)
    (h : name? (splitQualifier t).2 = some (w, d :: v)) : read? t = .ok none := by
  have hminus : d ≠ '-' := by
    rintro rfl
    revert hd
    decide
  simp only [read?, h]
  split
  · next heq => cases heq
  · next heq => exact absurd (List.cons.inj heq).1 hminus
  · next heq => exact absurd (List.cons.inj heq).1 hminus
  · next heq => exact absurd (List.cons.inj heq).1 hminus
  · rfl

variable (hp : Name.isPlain name = true) (hw : ¬ Name.IsWord name)

include hp hw

theorem name?_of_not_isWord : ∃ w d v, isAlphanumeric d = true ∧
    ∀ r, name? (name ++ r) = some (w, d :: (v ++ r)) := by
  obtain ⟨w, d, v, hd, hread⟩ := Name.read?_of_not_isWord false hp hw
  refine ⟨w, d, v, hd, fun r => ?_⟩
  obtain ⟨hstar, hread⟩ := hread r
  rw [name?]
  · exact hread
  · intro u hu
    rw [hu] at hstar
    exact hstar rfl

theorem read?_of_not_isWord (r : Text) : read? (name ++ r) = .ok none := by
  obtain ⟨w, d, v, hd, hread⟩ := Name.read?_of_not_isWord false hp hw
  obtain ⟨w', d', v', hd', hname⟩ := name?_of_not_isWord hp hw
  have hsplit : splitQualifier (name ++ r) = (none, name ++ r) := by
    rw [splitQualifier, (hread r).2]
    split
    · next heq =>
      obtain ⟨-, hdot⟩ := Prod.mk.inj (Option.some.inj heq)
      obtain ⟨rfl, -⟩ := List.cons.inj hdot
      exact absurd hd (by decide)
    · rfl
  exact read?_eq_none hd' ((congrArg (fun p => name? p.2) hsplit).trans (hname r))

theorem read?_qualified_of_not_isWord {q s : Text} (hq : Name.Writes q s) (r : Text) :
    read? (s ++ '.' :: (name ++ r)) = .ok none := by
  obtain ⟨w, d, v, hd, hname⟩ := name?_of_not_isWord hp hw
  have hdot : Name.Stops ('.' :: (name ++ r)) := by
    intro c hc
    cases hc
    decide
  have hsplit : splitQualifier (s ++ '.' :: (name ++ r)) = (some q, name ++ r) := by
    rw [splitQualifier, Name.read?_writes false hq hdot]
    rfl
  exact read?_eq_none hd ((congrArg (fun p => name? p.2) hsplit).trans (hname r))

omit hp hw

theorem faithful_names (hf : c.Formed) (hwild : c.isWildcard = false)
    (h : read? c.written = .ok (some c)) :
    (∀ q, c.qualifier = some q → Name.Faithful q) ∧ Name.Faithful c.name := by
  obtain ⟨q, name, path⟩ := c
  have hname : writtenName name = Name.written name := if_neg (by simpa [isWildcard] using hwild)
  have bare {n : Text} (hp : Name.isPlain n = true) : Name.written n = n := if_pos hp
  cases q with
  | none =>
    refine ⟨fun _ hq => (by cases hq), fun hp => ?_⟩
    by_contra hword
    rw [written_unqualified, hname, bare hp, read?_of_not_isWord hp hword] at h
    cases h
  | some q =>
    rw [written_qualified, hname] at h
    have hqualifier : Name.Faithful q := by
      intro hp
      by_contra hword
      rw [bare hp, read?_of_not_isWord hp hword] at h
      cases h
    refine ⟨fun q' hq => Option.some.inj hq ▸ hqualifier, fun hp => ?_⟩
    by_contra hword
    rw [bare hp, read?_qualified_of_not_isWord hp hword
      (Name.writes_written (hf.qualifier q rfl) hqualifier)] at h
    cases h

theorem trim_written (hf : c.Formed) (hwild : c.isWildcard = false) :
    c.written.trim = c.written := by
  obtain ⟨q, name, path⟩ := c
  have hname : writtenName name = Name.written name := if_neg (by simpa [isWildcard] using hwild)
  obtain ⟨a, r, d, hw, ha, hd, hb⟩ := Name.ends_written hf.name
  have hhead : ∃ b, (written ⟨q, name, path⟩).head? = some b ∧ isBlank b = false := by
    cases q with
    | none => exact ⟨a, by rw [written_unqualified, hname, hw]; rfl, ha⟩
    | some q =>
      obtain ⟨b, s, -, hq, hb, -⟩ := Name.ends_written (hf.qualifier q rfl)
      exact ⟨b, by rw [written_qualified, hq]; rfl, hb⟩
  have hlast : ∃ b, (written ⟨q, name, path⟩).getLast? = some b ∧ isBlank b = false := by
    have hplain : (writtenName name).getLast? = some d := by rw [hname, hw, hd]
    cases path with
    | none =>
      refine ⟨d, ?_, hb⟩
      cases q with
      | none => rw [written_unqualified, writtenPath, List.append_nil, hplain]
      | some q =>
        rw [written_qualified, writtenPath, List.append_nil, List.getLast?_append,
          List.getLast?_cons, hplain]
        rfl
    | some p =>
      refine ⟨'\'', ?_, by decide⟩
      rw [written_path, writtenPath, Text.quoted]
      simp [List.getLast?_append, List.getLast?_cons]
  obtain ⟨b, hb, hblank⟩ := hhead
  obtain ⟨e, he, hblank'⟩ := hlast
  exact Text.trim_of_ends hb hblank he hblank'

end Column

end QueryShorthand
