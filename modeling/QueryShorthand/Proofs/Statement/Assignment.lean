import QueryShorthand.Proofs.Number.Decimal
import QueryShorthand.Proofs.Operand.Writing
import QueryShorthand.Statement.Update

/-! The forms that an assignment of an UPDATE may have. -/
namespace QueryShorthand

def Operand.IsAssignable : Operand → Prop
  | auto => False
  | array _ => False
  | malformedArray _ => False
  | _ => True

namespace Update

variable {column t r b q v : Text} {a : Assignment} {c : Char} {op : Option Char} {n : NewValue}

def FiniteNumeral (t : Text) : Prop := ∃ d : Decimal, d.Writes t ∧ d.toBinary64.isFinite = true

theorem isFiniteNumber_iff : isFiniteNumber t = true ↔ FiniteNumeral t := by
  have nan (negative : Bool) : ({ Binary64.nan with negative } : Binary64).isFinite = false := rfl
  have infinite (negative : Bool) : (Binary64.infinite negative).isFinite = false := rfl
  constructor
  · intro h
    simp only [isFiniteNumber, readFloat?] at h
    split at h
    · next d hd => exact ⟨d, Decimal.read?_eq_some_iff.1 hd, by simpa using h⟩
    · exfalso
      split at h
      · rw [Option.any_some, nan] at h
        cases h
      · split at h
        · rw [Option.any_some, infinite] at h
          cases h
        · cases h
  · rintro ⟨d, hd, hfinite⟩
    rw [isFiniteNumber, readFloat?, Decimal.read?_eq_some_iff.2 hd]
    simpa using hfinite

inductive Denotes (column : Text) : NewValue → Text → Prop where
  | number {t : Text} (h : FiniteNumeral t) : Denotes column (.number t) t
  | bound {t : Text} (hn : ¬ FiniteNumeral t) (h : Operand.read t = .ok .auto) :
      Denotes column (.operand (.parameter column)) t
  | operand {o : Operand} {t : Text} (hn : ¬ FiniteNumeral t) (h : Operand.read t = .ok o)
      (ho : o.IsAssignable) : Denotes column (.operand o) t

theorem newValue?_eq_some_iff : newValue? column t = some n ↔ Denotes column n t := by
  constructor
  · intro h
    unfold newValue? at h
    split at h
    · next hn =>
      cases h
      exact .number (isFiniteNumber_iff.1 hn)
    · next hn =>
      rw [isFiniteNumber_iff] at hn
      cases hr : Operand.read t with
      | error e => simp [hr] at h
      | ok o =>
        rw [hr] at h
        cases o with
        | auto =>
          cases h
          exact .bound hn hr
        | array values => cases h
        | malformedArray text => cases h
        | column c =>
          cases h
          exact .operand hn hr trivial
        | parameter name =>
          cases h
          exact .operand hn hr trivial
        | literal text =>
          cases h
          exact .operand hn hr trivial
        | null =>
          cases h
          exact .operand hn hr trivial
        | call name args =>
          cases h
          exact .operand hn hr trivial
  · intro h
    unfold newValue?
    cases h with
    | number h => rw [if_pos (isFiniteNumber_iff.2 h)]
    | bound hn h => rw [if_neg (mt isFiniteNumber_iff.1 hn), h]
    | @operand o _ hn h ho =>
      rw [if_neg (mt isFiniteNumber_iff.1 hn), h]
      cases o with
      | auto => exact ho.elim
      | array values => exact ho.elim
      | malformedArray text => exact ho.elim
      | column c => rfl
      | parameter name => rfl
      | literal text => rfl
      | null => rfl
      | call name args => rfl

theorem not_denotes_nil : ¬ Denotes column n [] := by
  intro h
  have hread : Operand.read [] = .error (.operand []) := by
    rw [Operand.read_eq]
    rfl
  have hnone : newValue? column [] = none := by
    rw [newValue?, hread]
    rfl
  rw [← newValue?_eq_some_iff, hnone] at h
  cases h

inductive WritesSign : Option Char → Text → Prop where
  | plain : WritesSign none ['=']
  | arithmetic {c : Char} (h : isArithmetic c = true) : WritesSign (some c) [c, '=']

/-- The expressions that stand for an assignment. -/
inductive Form : Assignment → Text → Prop where
  | increment {column q b : Text} (h : Name.Spells false column q) (hb : b.Blank) :
      Form ⟨column, some '+', .number ['1']⟩ (q ++ (b ++ ['+', '+']))
  | decrement {column q b : Text} (h : Name.Spells false column q) (hb : b.Blank) :
      Form ⟨column, some '-', .number ['1']⟩ (q ++ (b ++ ['-', '-']))
  | bare {column q : Text} (h : Name.Spells false column q) :
      Form ⟨column, none, .operand (.parameter column)⟩ q
  | assigned {column q b s v : Text} {op : Option Char} {n : NewValue}
      (h : Name.Spells true column q)
      (hb : b.Blank) (hs : WritesSign op s) (hv : Denotes column n v.trim) :
      Form ⟨column, op, n⟩ (q ++ (b ++ (s ++ v)))

theorem assignmentSign?_eq_some_iff :
    assignmentSign? t = some (op, r) ↔ ∃ s, WritesSign op s ∧ t = s ++ r := by
  constructor
  · intro h
    unfold assignmentSign? at h
    split at h
    · cases h
      exact ⟨_, .plain, rfl⟩
    · split at h
      · next hc =>
        cases h
        exact ⟨_, .arithmetic hc, rfl⟩
      · cases h
    · cases h
  · rintro ⟨s, hs, rfl⟩
    cases hs with
    | plain => rfl
    | @arithmetic c hc =>
      rw [List.cons_append, List.cons_append, List.nil_append, assignmentSign?, if_pos hc]
      rintro rfl
      cases hc

theorem exists_trimStart (t : Text) : ∃ b, b.Blank ∧ t = b ++ t.trimStart :=
  ⟨t.takeWhile isBlank, fun _ hc => List.mem_takeWhile_imp hc, List.takeWhile_append_dropWhile.symm⟩

theorem trimStart_padded (hb : b.Blank) (hc : isBlank c = false) :
    (b ++ c :: t).trimStart = c :: t := by
  rw [Text.trimStart, hb.dropWhile, List.dropWhile_cons_of_neg (by simp [hc])]

theorem stops_padded (hb : b.Blank) (hc : isWordChar c = false) : Name.Stops (b ++ c :: t) := by
  intro d hd
  cases b with
  | nil =>
    cases hd
    exact hc
  | cons e b =>
    cases hd
    exact not_isWordChar_of_isBlank (hb d List.mem_cons_self)

theorem sign_head {s : Text} (h : WritesSign op s) :
    ∃ c r, s = c :: r ∧ isBlank c = false ∧ isWordChar c = false ∧
    (r = [] ∧ c = '=' ∨ r = ['=']) := by
  cases h with
  | plain => exact ⟨'=', [], rfl, by decide, by decide, .inl ⟨rfl, rfl⟩⟩
  | @arithmetic c hc =>
    refine ⟨c, ['='], rfl, ?_⟩
    simp only [isArithmetic, Bool.or_eq_true, beq_iff_eq] at hc
    rcases hc with (((rfl | rfl) | rfl) | rfl) | rfl <;> exact ⟨by decide, by decide, .inr rfl⟩

theorem form_of_step? (h : step? t = some a) : Form a t := by
  unfold step? at h
  split at h
  · next column r hread =>
    obtain ⟨q, hq, rfl⟩ := Name.exists_of_read? hread
    obtain ⟨b, hb, hr⟩ := exists_trimStart r
    split at h
    · next heq =>
      cases h
      rw [hr, heq]
      exact .increment hq hb
    · next heq =>
      cases h
      rw [hr, heq]
      exact .decrement hq hb
    · cases h
  · cases h

theorem form_of_bare? (h : bare? t = some a) : Form a t := by
  obtain ⟨column, hwhole, rfl⟩ := Option.map_eq_some_iff.1 h
  unfold Name.whole? at hwhole
  split at hwhole
  · next hread =>
    cases hwhole
    obtain ⟨q, hq, rfl⟩ := Name.exists_of_read? hread
    rw [List.append_nil]
    exact .bare hq
  · cases hwhole

theorem form_of_assignment? (h : assignment? t = some a) : Form a t := by
  simp only [assignment?, Option.bind_eq_bind, Option.bind_eq_some_iff] at h
  obtain ⟨⟨column, r⟩, hread, ⟨op, v⟩, hsign, h⟩ := h
  obtain ⟨q, hq, rfl⟩ := Name.exists_of_read? hread
  obtain ⟨b, hb, hr⟩ := exists_trimStart r
  obtain ⟨s, hs, hv⟩ := assignmentSign?_eq_some_iff.1 hsign
  split at h
  · cases h
  · obtain ⟨n, hn, h⟩ := Option.bind_eq_some_iff.1 h
    cases h
    rw [hr, hv]
    exact .assigned hq hb hs (newValue?_eq_some_iff.1 hn)

theorem read?_signed {multiline : Bool} (h : Name.Spells multiline column q) (hb : b.Blank)
    (hblank : isBlank c = false) (hword : isWordChar c = false) :
    Name.read? multiline (q ++ (b ++ c :: r)) = some (column, b ++ c :: r) ∧
      (b ++ c :: r).trimStart = c :: r :=
  ⟨Name.read?_spells h (stops_padded hb hword), trimStart_padded hb hblank⟩

theorem step?_increment (h : Name.Spells false column q) (hb : b.Blank) :
    step? (q ++ (b ++ ['+', '+'])) = some ⟨column, some '+', .number ['1']⟩ := by
  obtain ⟨hread, htrim⟩ :=
    read?_signed (r := ['+']) h hb (by decide : isBlank '+' = false) (by decide)
  rw [step?, hread]
  dsimp only
  rw [htrim]
  rfl

theorem step?_decrement (h : Name.Spells false column q) (hb : b.Blank) :
    step? (q ++ (b ++ ['-', '-'])) = some ⟨column, some '-', .number ['1']⟩ := by
  obtain ⟨hread, htrim⟩ :=
    read?_signed (r := ['-']) h hb (by decide : isBlank '-' = false) (by decide)
  rw [step?, hread]
  dsimp only
  rw [htrim]
  rfl

theorem step?_of_read? (h : Name.read? false t = some (column, r))
    (hr : r.trimStart ∉ [['+', '+'], ['-', '-']]) : step? t = none := by
  rw [step?, h]
  dsimp only
  split
  · next heq => exact absurd (by rw [heq]; simp) hr
  · next heq => exact absurd (by rw [heq]; simp) hr
  · rfl

theorem bare?_of_read? (h : Name.read? false t = some (column, r)) (hr : r ≠ []) :
    bare? t = none := by
  have hwhole : Name.whole? false t = none := by
    rw [Name.whole?, h]
    cases r with
    | nil => exact absurd rfl hr
    | cons c r => rfl
  rw [bare?, hwhole]
  rfl

theorem unstepped {s : Text} (hread : Name.read? true t = some (column, b ++ (s ++ v)))
    (hb : b.Blank) (hs : WritesSign op s) : step? t = none ∧ bare? t = none := by
  obtain ⟨c, s', rfl, hblank, -, hsign⟩ := sign_head hs
  cases hfalse : Name.read? false t with
  | none =>
    constructor
    · rw [step?, hfalse]
    · rw [bare?, Name.whole?, hfalse]
      rfl
  | some p =>
    obtain ⟨column', r⟩ := p
    obtain ⟨rfl, rfl⟩ :=
      Prod.mk.inj (Option.some.inj ((Name.read?_multiline hfalse).symm.trans hread))
    constructor
    · apply step?_of_read? hfalse
      rw [List.cons_append, trimStart_padded hb hblank]
      rcases hsign with ⟨rfl, rfl⟩ | rfl <;> simp
    · apply bare?_of_read? hfalse
      simp

theorem read?_eq_some_iff : Assignment.read? t = some a ↔ Form a t.trim := by
  rw [Assignment.read?]
  constructor
  · intro h
    simp only [Option.or_eq_some_iff] at h
    rcases h with h | ⟨-, h | ⟨-, h⟩⟩
    · exact form_of_step? h
    · exact form_of_bare? h
    · exact form_of_assignment? h
  · intro h
    generalize t.trim = t at h
    cases h with
    | increment h hb => rw [step?_increment h hb, Option.some_or]
    | decrement h hb => rw [step?_decrement h hb, Option.some_or]
    | @bare column q h =>
      have hread := Name.read?_spells (r := []) h (fun c hc => by cases hc)
      rw [List.append_nil] at hread
      have hwhole : Name.whole? false t = some column := by rw [Name.whole?, hread]
      rw [step?_of_read? hread (by simp [Text.trimStart]), bare?, hwhole]
      rfl
    | @assigned column q b s v op n h hb hs hv =>
      obtain ⟨c, s', hsign, hblank, hword, -⟩ := sign_head hs
      have hsigned : Name.read? true (q ++ (b ++ (s ++ v))) = some (column, b ++ (s ++ v)) ∧
          (b ++ (s ++ v)).trimStart = s ++ v := by
        rw [hsign]
        exact read?_signed h hb hblank hword
      obtain ⟨hread, htrim⟩ := hsigned
      have hne : v ≠ [] := by
        rintro rfl
        exact not_denotes_nil hv
      obtain ⟨hstep, hbare⟩ := unstepped hread hb hs
      rw [hstep, hbare, Option.none_or, Option.none_or]
      simp only [assignment?, hread, htrim, assignmentSign?_eq_some_iff.2 ⟨s, hs, rfl⟩,
        newValue?_eq_some_iff.2 hv, Option.bind_eq_bind, Option.bind_some, if_neg hne]
      rfl

end Update

end QueryShorthand
