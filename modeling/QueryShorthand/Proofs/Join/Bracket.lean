import QueryShorthand.Join.Reader
import QueryShorthand.Proofs.Operand.Names

/-! The grammar of the brackets of a join. -/
namespace QueryShorthand

inductive Nests : Text → Prop where
  | nil : Nests []
  | atom {c : Char} {r s r' : Text} (h : atom c r = .ok (s, r')) (ho : s ≠ ['[']) (hcl : s ≠ [']'])
      (hr : Nests r') : Nests (c :: r)
  | nested {s t : Text} (hs : Nests s) (ht : Nests t) : Nests ('[' :: (s ++ ']' :: t))

theorem Nests.balanced {t : Text} (h : Nests t) : Balanced '[' ']' t := by
  induction h with
  | nil => exact balanced_nil
  | @atom c r s r' h ho hcl _ ih =>
    intro start d v
    rw [List.cons_append, enclosedRest_other (atom_append h) ho hcl, ih, prepended_prepended,
      (eq_append_of_atom h).1]
  | @nested s t _ _ ihs iht =>
    have hnested := (ihs.nested brackets_square).append iht
    simpa using hnested

namespace Join

inductive WritesColumns : List Text → Text → Prop where
  | last {name : Text} (h : Name.IsWord name) : WritesColumns [name] name
  | more {name t : Text} {names : List Text} (h : Name.IsWord name) (hs : WritesColumns names t) :
      WritesColumns (name :: names) (name ++ ',' :: t)

variable {name t : Text} {names : List Text}

theorem ne_comma_of_isWord (h : Name.IsWord name) : ∀ c ∈ name, c ≠ ',' := by
  rintro c hc rfl
  exact absurd (h.isWordChar _ hc) (by decide)

theorem splitCommas_append {s part : Text} {parts : List Text} (hs : ∀ c ∈ s, c ≠ ',')
    (ht : splitCommas t = part :: parts) : splitCommas (s ++ t) = (s ++ part) :: parts := by
  induction s with
  | nil => exact ht
  | cons c s ih =>
    obtain ⟨hc, hs⟩ := List.forall_mem_cons.1 hs
    rw [List.cons_append, splitCommas, if_neg hc, ih hs]
    rfl

theorem WritesColumns.cut (h : WritesColumns names t) : splitCommas t = names := by
  induction h with
  | last h =>
    have hlast := splitCommas_append (ne_comma_of_isWord h) (rfl : splitCommas [] = [[]])
    rwa [List.append_nil] at hlast
  | @more name t names h _ ih =>
    have hcomma : splitCommas (',' :: t) = [] :: names := by rw [splitCommas, if_pos rfl, ih]
    rw [splitCommas_append (ne_comma_of_isWord h) hcomma, List.append_nil]

theorem WritesColumns.isWord (h : WritesColumns names t) : ∀ n ∈ names, Name.IsWord n := by
  induction h with
  | last h => simpa using h
  | more h _ ih => exact List.forall_mem_cons.2 ⟨h, ih⟩

theorem names_of_writes (refuse : Text → Error) (h : WritesColumns names t) :
    Join.names refuse t = .ok names := by
  rw [Join.names, h.cut, mapM_eq_ok_iff, List.forall₂_same]
  intro n hn
  have hword := h.isWord n hn
  rw [(Name.solid_of_isWord hword).trim, Name.whole?_writes false (.bare hword)]

theorem WritesColumns.head (h : WritesColumns names t) :
    ∃ n r, Name.IsWord n ∧ t = n ++ r ∧ (r = [] ∨ ∃ u, r = ',' :: u) := by
  cases h with
  | last h => exact ⟨_, [], h, (List.append_nil _).symm, .inl rfl⟩
  | more h _ => exact ⟨_, _, h, rfl, .inr ⟨_, rfl⟩⟩

theorem WritesColumns.getLast? (h : WritesColumns names t) :
    ∃ c, t.getLast? = some c ∧ isBlank c = false := by
  induction h with
  | last h => exact (Name.solid_of_isWord h).last
  | more _ _ ih =>
    obtain ⟨c, hc, hb⟩ := ih
    exact ⟨c, by simp [List.getLast?_append, List.getLast?_cons, hc], hb⟩

theorem balanced_isWord (h : Name.IsWord name) : Balanced '[' ']' name := by
  refine balanced_of_not_special (by decide) fun c hc =>
    ⟨not_special_of_isWordChar (h.isWordChar c hc), ?_⟩
  rintro rfl
  exact absurd (h.isWordChar _ hc) (by decide)

theorem WritesColumns.balanced (h : WritesColumns names t) : Balanced '[' ']' t := by
  induction h with
  | last h => exact balanced_isWord h
  | more h _ ih =>
    have hcomma : Balanced '[' ']' [','] := balanced_char (by decide) (by decide) (by decide)
    exact (balanced_isWord h).append (hcomma.append ih)

/-- What may be written between the square brackets. A condition may hold any text that was read as
one; the rest are words. -/
inductive Bracket.Writes : Bracket → Text → Prop where
  | condition {c : Condition} {s : Text} (h : Condition.read s = .ok c) (hne : c.isEmpty = false)
      (hend : s.trimEnd = s) (hs : Nests s) : Writes (.condition c) ('?' :: s)
  | merged {columns : List Text} {t : Text} (h : WritesColumns columns t) :
      Writes (.merged columns) (':' :: t)
  | equal {columns : List Text} {t : Text} (h : WritesColumns columns t) :
      Writes (.equal none columns) t
  | equalOf {table t : Text} {columns : List Text} (ht : Name.IsWord table)
      (h : WritesColumns columns t) : Writes (.equal (some table) columns) (table ++ ':' :: t)

variable {b : Bracket}

theorem Bracket.Writes.balanced (h : b.Writes t) : Balanced '[' ']' t := by
  have sign {c : Char} (hc : c ∈ ['?', ':']) : Balanced '[' ']' [c] := by
    have hplain : ∀ c ∈ ['?', ':'], (c ≠ '\\' ∧ isQuote c = false) ∧ c ≠ '[' ∧ c ≠ ']' :=
      Text.forall_mem_of_all (by decide)
    obtain ⟨hc, ho, hcl⟩ := hplain c hc
    exact balanced_char hc ho hcl
  cases h with
  | condition h hne hend hs => exact (sign (by simp)).append hs.balanced
  | merged h => exact (sign (by simp)).append h.balanced
  | equal h => exact h.balanced
  | equalOf ht h => exact (balanced_isWord ht).append ((sign (by simp)).append h.balanced)

theorem stops_of_head {c : Char} {r : Text} (h : isWordChar c = false) : Name.Stops (c :: r) := by
  intro d hd
  cases hd
  exact h

theorem override?_columns {columns : List Text} (h : WritesColumns columns t) :
    override? t = none := by
  obtain ⟨n, r, hn, rfl, rfl | ⟨u, rfl⟩⟩ := h.head
  · rw [override?, Name.read?_writes true (.bare hn) fun _ hc => by cases hc]
    rfl
  · have hcomma : Text.trimStart (',' :: u) = ',' :: u := Text.trimStart_cons (by decide)
    rw [override?, Name.read?_writes true (.bare hn) (stops_of_head (by decide))]
    simp only [hcomma]
    rfl

theorem override?_table {table : Text} (h : Name.IsWord table) :
    override? (table ++ ':' :: t) = some (table, t) := by
  have hcolon : Text.trimStart (':' :: t) = ':' :: t := Text.trimStart_cons (by decide)
  rw [override?, Name.read?_writes true (.bare h) (stops_of_head (by decide))]
  simp only [hcolon]

theorem inside_eq (ht : t.trim = t) : Text.trim ('[' :: (t ++ [']'])).tail.dropLast = t := by
  rw [List.tail_cons, List.dropLast_concat, ht]

/-- The first character of the inside tells columns from a condition and from merged columns. -/
theorem Bracket.read_plain {c : Char} {r : Text} (hc : c ≠ '?' ∧ c ≠ ':') (ht : t.trim = c :: r) :
    Bracket.read ('[' :: (t ++ [']'])) =
      match override? (c :: r) with
      | some (table, columns) => (Join.names .join columns).map (equal (some table))
      | none => (Join.names .join (c :: r)).map (equal none) := by
  rw [Bracket.read, List.tail_cons, List.dropLast_concat, ht]
  split
  · next heq => exact absurd (List.cons.inj heq).1 hc.1
  · next heq => exact absurd (List.cons.inj heq).1 hc.2
  · rfl

theorem ne_sign_of_isStart {c : Char} (h : Name.isStart c = true) : c ≠ '?' ∧ c ≠ ':' := by
  constructor <;> rintro rfl <;> exact absurd h (by decide)

theorem Bracket.Writes.trim (h : b.Writes t) : t.trim = t := by
  have first {n : Text} (hn : Name.IsWord n) (r : Text) :
      ∃ c, (n ++ r).head? = some c ∧ isBlank c = false := by
    obtain ⟨c, u, rfl, hb, -⟩ := (Name.solid_of_isWord hn).head
    exact ⟨c, rfl, hb⟩
  cases h with
  | condition h hne hend hs => rw [Text.trim_cons (by decide), hend]
  | merged h =>
    obtain ⟨d, hd, hb⟩ := h.getLast?
    exact Text.trim_of_ends rfl (by decide) (by simp [List.getLast?_cons, hd]) hb
  | equal h =>
    obtain ⟨d, hd, hb⟩ := h.getLast?
    obtain ⟨n, r, hn, rfl, -⟩ := h.head
    obtain ⟨c, hc, hb'⟩ := first hn r
    exact Text.trim_of_ends hc hb' hd hb
  | equalOf ht h =>
    obtain ⟨d, hd, hb⟩ := h.getLast?
    obtain ⟨c, hc, hb'⟩ := first ht _
    exact Text.trim_of_ends hc hb' (by simp [List.getLast?_append, List.getLast?_cons, hd]) hb

theorem Bracket.Writes.read (h : b.Writes t) : Bracket.read ('[' :: (t ++ [']'])) = .ok b := by
  have ht := h.trim
  cases h with
  | condition h hne hend hs =>
    rw [Bracket.read, inside_eq ht]
    simp only [h, hne, bind, Except.bind]
    rfl
  | merged h =>
    rw [Bracket.read, inside_eq ht]
    simp only [names_of_writes _ h]
    rfl
  | equal h =>
    have hover := override?_columns h
    have hnames := names_of_writes .join h
    obtain ⟨n, r, ⟨c, u, rfl, hc, -⟩, rfl, -⟩ := h.head
    rw [List.cons_append] at ht hover hnames ⊢
    rw [Bracket.read_plain (ne_sign_of_isStart hc) ht, hover, hnames]
    rfl
  | @equalOf table t columns hw h =>
    have hover := override?_table (t := t) hw
    obtain ⟨c, u, rfl, hc, -⟩ := hw
    rw [List.cons_append] at ht hover ⊢
    rw [Bracket.read_plain (ne_sign_of_isStart hc) ht, hover]
    simp only [names_of_writes _ h]
    rfl

end Join

end QueryShorthand
