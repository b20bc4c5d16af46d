import QueryShorthand.Proofs.Operand.Column
import QueryShorthand.Proofs.Operand.Formed
import QueryShorthand.Proofs.Value.Conversion

/-! Operands in their written form, and when that is read back. -/
namespace QueryShorthand.Operand

variable {o : Operand} {t : Text}

def isCall : Operand → Bool
  | call _ _ => true
  | _ => false

/-- Whether the written operand may hold any characters outside quotes. -/
def isLoose : Operand → Bool
  | literal t => t.head? == some '$'
  | malformedArray _ => true
  | call _ _ => true
  | _ => false

mutual

/-- Each number of a written array is read back from its own text. -/
def NumbersReread : Operand → Prop
  | array values => ∀ j, (Value.array values).toJson = .ok j → j.NumbersReread
  | call _ args => NumbersRereadAll args
  | _ => True

def NumbersRereadAll : List Operand → Prop
  | [] => True
  | o :: os => o.NumbersReread ∧ NumbersRereadAll os

end

mutual

/-- What is written bare stays what it is: a JSON path has no blanks around it, the name of a
function is a word, and a loose argument is one item among commas. -/
def Faithful : Operand → Prop
  | column c => c.Faithful
  | literal t => t.head? = some '$' → t.trim = t
  | call name args => Name.IsWord name ∧ FaithfulAll args
  | _ => True

def FaithfulAll : List Operand → Prop
  | [] => True
  | o :: os => o.Faithful ∧ (o.isLoose = true → IsItem o.written) ∧ FaithfulAll os

end

structure Restored (o : Operand) : Prop where
  argument : argument o.written = .ok o
  read : o.isWildcard = false → read o.written = .ok o
  item : o.isLoose = false → IsItem o.written

theorem restored_of_legible (h : Legible o o.written) : Restored o :=
  ⟨h.argument, fun _ => h.read, fun _ => (entry_of_solid h.solid).isItem⟩

theorem simple?_path {r : Text} : simple? ('$' :: r) = .ok (some (literal ('$' :: r))) := by
  have hnull : isNullWord ('$' :: r) = false := not_isNullWord List.mem_cons_self (by decide)
  simp [simple?, parameter?_none, hnull, isQuoted_false, isBareLiteral]

theorem restored_path (h : t.head? = some '$') (ht : t.trim = t) : Restored (literal t) := by
  obtain ⟨r, rfl⟩ := List.head?_eq_some_iff.1 h
  have hw : (literal ('$' :: r)).written = '$' :: r := by simp [written, isBareLiteral]
  have hr : read ('$' :: r) = .ok (literal ('$' :: r)) := by rw [read_eq, ht, simple?_path]
  refine ⟨?_, fun _ => ?_, fun hl => ?_⟩
  · rw [hw]
    exact argument_of_none (column_read?_none (by decide) (by decide) (by decide)) hr
  · rw [hw, hr]
  · simp [isLoose] at hl

theorem restored_literal (h : t.head? = some '$' → t.trim = t) : Restored (literal t) := by
  by_cases hpath : t.head? = some '$'
  · exact restored_path hpath (h hpath)
  · refine restored_of_legible ?_
    by_cases hnum : isNumber t = true
    · have hw : (literal t).written = t := by simp [written, isBareLiteral, hnum]
      rw [hw]
      exact legible_number hnum
    · have hw : (literal t).written = Text.quoted '\'' t := by
        simp [written, isBareLiteral, hnum, hpath]
      rw [hw]
      exact legible_text t

theorem restored_array {values : List Value} (hf : (array values).Formed)
    (hn : (array values).NumbersReread) : Restored (array values) := by
  obtain ⟨items, hnests, rfl⟩ := hf
  have hj : (Value.array (Value.ofJsonAll items)).toJson = .ok (Json.array items).spelledOut :=
    Value.toJson_ofJson (.array items)
  have hw : (array (Value.ofJsonAll items)).written = (Json.array items).spelledOut.written := by
    simp only [written, arrayText, hj]
  have hof : Value.ofJsonAll (Json.spelledOutAll items) = Value.ofJsonAll items :=
    Value.array.inj (Value.ofJson_spelledOut (.array items))
  have hl := legible_array (Json.nests_spelledOut hnests) (hn _ hj)
  rw [hof] at hl
  rw [← Json.spelledOut, ← hw] at hl
  exact restored_of_legible hl

theorem restored_malformedArray (hf : (malformedArray t).Formed) : Restored (malformedArray t) := by
  obtain ⟨hhead, hlast, hof⟩ := hf
  have htrim : t.trim = t := Text.trim_of_ends hhead (by decide) hlast (by decide)
  obtain ⟨r, rfl⟩ := List.head?_eq_some_iff.1 hhead
  have hr : read ('[' :: r) = .ok (malformedArray ('[' :: r)) := by
    have hs : simple? ('[' :: r) = .ok (some (malformedArray ('[' :: r))) := by
      simp [simple?, parameter?_none, hlast, hof]
    rw [read_eq, htrim, hs]
  have harg := argument_of_none (column_read?_none (by decide) (by decide) (by decide)) hr
  exact ⟨harg, fun _ => hr, fun hl => by cases hl⟩

theorem restored_column {c : Column} (hf : c.Formed) (h : c.Faithful) : Restored (column c) := by
  by_cases hw : c.isWildcard = true
  · obtain ⟨hread, hentry⟩ := Column.written_wildcard hf h.qualifier hw
    refine ⟨?_, fun hn => ?_, fun _ => hentry.isItem⟩
    · rw [argument]
      simp only [written, hread, hw]
      rfl
    · exact absurd (hw.symm.trans hn) (by decide)
  · exact restored_of_legible
      (legible_column (Column.writes_written hf h (Bool.not_eq_true _ ▸ hw)) h.notNull)

theorem restored_call {name : Text} {args : List Operand} (hupper : Text.upper name = name)
    (hword : Name.IsWord name)
    (hargs : ∀ o ∈ args, IsItem o.written ∧ argument o.written = .ok o) :
    Restored (call name args) := by
  obtain ⟨hcol, hr⟩ := read_call hword (arguments_writtenAll hargs)
  rw [hupper] at hr
  exact ⟨argument_of_none hcol hr, fun _ => hr, fun hl => by cases hl⟩

mutual

theorem restored : ∀ {o : Operand}, o.Formed → o.NumbersReread → o.Faithful → Restored o
  | auto, _, _, _ => restored_of_legible legible_auto
  | column _, hf, _, h => restored_column hf h
  | parameter _, hf, _, _ => restored_of_legible (legible_parameter hf.1 hf.2)
  | literal _, _, _, h => restored_literal h
  | array _, hf, hn, _ => restored_array hf hn
  | malformedArray _, hf, _, _ => restored_malformedArray hf
  | null, _, _, _ => restored_of_legible (legible_null (by decide))
  | call _ _, hf, hn, h => restored_call hf.1 h.1 (restoredAll hf.2 hn h.2)

theorem restoredAll : ∀ {os : List Operand}, FormedAll os → NumbersRereadAll os → FaithfulAll os →
    ∀ o ∈ os, IsItem o.written ∧ argument o.written = .ok o
  | [], _, _, _ => by simp
  | o :: os, hf, hn, h => by
    have hfirst := restored hf.1 hn.1 h.1
    refine List.forall_mem_cons.2 ⟨⟨?_, hfirst.argument⟩, restoredAll hf.2 hn.2 h.2.2⟩
    cases hl : o.isLoose with
    | true => exact h.2.1 hl
    | false => exact hfirst.item hl

end

theorem column_of_read {c : Column} (h : read t = .ok (column c)) :
    isNullWord t.trim = false ∧ Column.read? t.trim = .ok (some c) := by
  rcases read_cases h with hs | ⟨-, name, args, os, -, -, hcall⟩
  · simp only [simple?] at hs
    split at hs
    · cases hs
    split at hs
    · cases hs
    split at hs
    · cases hs
    split at hs
    · unfold ofBracketed at hs
      split at hs <;> cases hs
    split at hs
    · cases hs
    next hnull =>
    split at hs
    · cases hs
    split at hs
    · cases hs
    split at hs
    · cases hs
    · next hc =>
      split at hs
      · cases hs
      · cases hs
        exact ⟨Bool.not_eq_true _ ▸ hnull, hc⟩
    · cases hs
  · cases hcall

theorem faithful_of_rereads (hf : o.Formed) (hc : o.isCall = false) (h : read o.written = .ok o) :
    o.Faithful := by
  cases o with
  | column c =>
    have hwild : c.isWildcard = false := not_isWildcard_of_read h
    have hread := column_of_read h
    rw [written, Column.trim_written hf hwild] at hread
    obtain ⟨hq, hname⟩ := Column.faithful_names hf hwild hread.2
    exact ⟨hq, hname, hread.1⟩
  | literal t =>
    intro hpath
    obtain ⟨r, rfl⟩ := List.head?_eq_some_iff.1 hpath
    have hw : (literal ('$' :: r)).written = '$' :: r := by simp [written, isBareLiteral]
    have htrim : Text.trim ('$' :: r) = '$' :: Text.trimEnd r := Text.trim_cons (by decide)
    rw [hw, read_eq, htrim, simple?_path] at h
    simp only [Except.ok.injEq, literal.injEq] at h
    rw [htrim, h]
  | call name args => cases hc
  | _ => trivial

/-- The written form gives the operand back if its numbers are and it is faithful. Short of calls,
whose arguments may happen to be cut in the right places, nothing else does. -/
theorem read_written_of_faithful (h : read t = .ok o) (hn : o.NumbersReread) :
    (o.Faithful → read o.written = .ok o) ∧
      (o.isCall = false → read o.written = .ok o → o.Faithful) := by
  have hf := formed_of_read h
  constructor
  · intro hfaithful
    exact (restored hf hn hfaithful).read (not_isWildcard_of_read h)
  · intro hc hr
    exact faithful_of_rereads hf hc hr

theorem read_written_of_faithful_nested : ∃ o : Operand,
    o = call "CONCAT".toList [call "UPPER".toList [literal "$.a".toList],
      array [.int 7, .float ⟨false, 1023, 2251799813685248⟩]] ∧
    read "CONCAT( UPPER('$.a'),[7,1.5])".toList = .ok o ∧ o.NumbersReread ∧ o.Faithful ∧
    o.written = "CONCAT(UPPER($.a), [7,1.5])".toList ∧ read o.written = .ok o := by
  have nothing : Text.Blank [] := Text.blank_nil
  have space : Text.Blank [' '] := Text.forall_mem_of_all (by decide)
  have half : Json.Number.Rereads (.float ⟨false, 1023, 2251799813685248⟩ (by decide)) := by
    unfold Json.Number.Rereads
    decide +kernel
  let numbers : List Json :=
    [.number (.natural 7), .number (.float ⟨false, 1023, 2251799813685248⟩ (by decide))]
  have hnumbers : (Json.array numbers).NumbersReread :=
    ⟨Json.Number.rereads_natural 7, half, trivial⟩
  have htext : (Json.array numbers).written = "[7,1.5]".toList := by decide +kernel
  have harray : Legible (array (Value.ofJsonAll numbers)) "[7,1.5]".toList := by
    have hl : Legible _ (Json.array numbers).written :=
      legible_array ⟨by decide, trivial, trivial, trivial⟩ hnumbers
    rwa [htext] at hl
  have upper : Legible (call "UPPER".toList [literal "$.a".toList]) "UPPER('$.a')".toList :=
    legible_call (by decide) (listed_last nothing (legible_text _) nothing)
  have whole : Legible (call "CONCAT".toList [_, array (Value.ofJsonAll numbers)])
      "CONCAT( UPPER('$.a'),[7,1.5])".toList :=
    legible_call (by decide)
      (listed_more space upper nothing (by simp) (listed_last nothing harray nothing))
  have rereads : NumbersReread (call "CONCAT".toList [call "UPPER".toList [literal "$.a".toList],
      array (Value.ofJsonAll numbers)]) := by
    refine ⟨⟨trivial, trivial⟩, fun j hj => ?_, trivial⟩
    cases hj
    exact hnumbers
  have word (name : Text) (h : isUpperWord name = true) : Name.IsWord name := (of_isUpperWord h).1
  have path : IsItem "$.a".toList :=
    (entry_chars (by decide) (Text.forall_mem_of_all (by decide))).isItem
  have inner : Balanced '(' ')' "$.a".toList := balanced_chars (Text.forall_mem_of_all (by decide))
  have function : IsItem "UPPER($.a)".toList :=
    (entry_of_solid (solid_call (Name.solid_of_isWord (word "UPPER".toList (by decide)))
      (by decide) inner)).isItem
  have faithful : Faithful (call "CONCAT".toList [call "UPPER".toList [literal "$.a".toList],
      array (Value.ofJsonAll numbers)]) :=
    ⟨word _ (by decide), ⟨word _ (by decide), fun _ => by decide, fun _ => path, trivial⟩,
      fun _ => function, trivial, fun hl => (by cases hl), trivial⟩
  exact ⟨_, rfl, whole.read, rereads, faithful, by decide +kernel,
    (read_written_of_faithful whole.read rereads).1 faithful⟩

/-- A column whose name is the word null is not written in backticks. -/
theorem read_written_of_null_column :
    read "`null`".toList = .ok (column { name := "null".toList }) ∧
    (column { name := "null".toList }).NumbersReread ∧
    (column { name := "null".toList }).written = "null".toList ∧ read "null".toList = .ok null := by
  have quoted : Column.Writes { name := "null".toList } "`null`".toList :=
    .plain (.quoted (by decide)) (by decide)
  exact ⟨(legible_column quoted (by decide)).read, trivial, rfl, (legible_null (by decide)).read⟩

end QueryShorthand.Operand
