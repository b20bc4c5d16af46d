import QueryShorthand.Proofs.Operand.Items
import QueryShorthand.Statement.Names

/-! The grammar of lists of column names. -/
namespace QueryShorthand.Statement

/-- A column can go by this name: a list of names takes neither an empty one nor the wildcard. -/
def IsColumn (name : Text) : Prop := name ≠ [] ∧ name ≠ ['*']

/-- Names with commas between them and blanks around each, which are bare words or in backticks. -/
inductive WritesNames : List Text → Text → Prop where
  | last {name b t b' : Text} (hb : b.Blank) (h : Name.Writes name t) (hb' : b'.Blank) :
      WritesNames [name] (b ++ (t ++ b'))
  | more {name b t b' u : Text} {names : List Text} (hb : b.Blank) (h : Name.Writes name t)
      (hb' : b'.Blank) (hs : WritesNames names u) :
      WritesNames (name :: names) (b ++ (t ++ b') ++ ',' :: u)

variable {name t : Text} {names : List Text}

theorem WritesNames.ne_nil (h : WritesNames names t) : names ≠ [] := by
  cases h <;> simp

theorem WritesNames.writesList (h : WritesNames names t) :
    ∃ texts, List.Forall₂ Name.Writes names texts ∧ Operand.WritesList texts t := by
  induction h with
  | last hb h hb' => exact ⟨_, .cons h .nil, .last hb h.solid hb'⟩
  | more hb h hb' hs ih =>
    obtain ⟨texts, hwrites, hlist⟩ := ih
    cases hwrites with
    | nil => exact absurd rfl hs.ne_nil
    | cons hx hwrites => exact ⟨_, .cons h (.cons hx hwrites), .more hb h.solid hb' hlist⟩

theorem columnName_of_writes (h : Name.Writes name t) (hname : IsColumn name) :
    columnName t = .ok name := by
  have hread : Column.read? t = .ok (some { name }) := Column.read?_writes (.plain h hname.2)
  have hwild : ({ name } : Column).isWildcard = false := by simpa [Column.isWildcard] using hname.2
  simp only [columnName, hread, bind, Except.bind, hwild]
  rfl

theorem columnNames_of_writes (h : WritesNames names t) (hn : ∀ n ∈ names, IsColumn n) :
    columnNames t = .ok names := by
  obtain ⟨texts, hwrites, hlist⟩ := h.writesList
  have htexts : Token.commaList t = .ok texts :=
    Operand.items_of_scans (fun _ => rfl) (fun _ => rfl) (List.forall₂_same.2 fun _ _ => rfl)
      hlist.scans
  rw [columnNames, htexts]
  show texts.mapM columnName = .ok names
  clear h hlist htexts
  rw [mapM_eq_ok_iff]
  induction hwrites with
  | nil => exact .nil
  | cons hx hwrites ih =>
    obtain ⟨hname, hnames⟩ := List.forall_mem_cons.1 hn
    exact .cons (columnName_of_writes hx hname) (ih hnames)

theorem isColumn_of_columnName (h : columnName t = .ok name) : IsColumn name := by
  obtain ⟨c, hc, h⟩ := exists_of_bind_eq_ok h
  cases c with
  | none => cases h
  | some c =>
    by_cases hplain : (c.isPlain && !c.isWildcard) = true
    · simp only [hplain, if_true] at h
      cases h
      have hwild : c.isWildcard = false := by simpa using (Bool.and_eq_true_iff.1 hplain).2
      exact ⟨(Column.formed_of_read? hc).name, by simpa [Column.isWildcard] using hwild⟩
    · simp only [hplain] at h
      cases h

theorem isColumn_of_columnNames (h : columnNames t = .ok names) : ∀ n ∈ names, IsColumn n := by
  obtain ⟨texts, -, hnames⟩ := exists_of_bind_eq_ok h
  intro n hn
  obtain ⟨x, -, hx⟩ := exists_of_mapM_eq_ok hnames n hn
  exact isColumn_of_columnName hx

end QueryShorthand.Statement
