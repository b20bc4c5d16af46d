import QueryShorthand.Proofs.Agreement
import QueryShorthand.Proofs.Operand.Items
import QueryShorthand.Proofs.Operand.Spelling
import QueryShorthand.Proofs.Statement.Labels
import QueryShorthand.Statement.Basic

/-! The grammar of select lists, and their SQL. -/
namespace QueryShorthand.Select

/-- An item as it may be written: an operand other than an auto reference, or a wildcard, with its
label. -/
inductive Item.Writes : Item → Text → Prop where
  | plain {o : Operand} {t : Text} (h : o.Spells t) (ha : o.isAuto = false) :
      Item.Writes ⟨o, none⟩ t
  | labelled {o : Operand} {t label : Text} (h : o.Spells t) (ha : o.isAuto = false)
      (hl : label ≠ []) :
      Item.Writes ⟨o, some label⟩ (t ++ labelText label)

inductive WritesItems : List Item → Text → Prop where
  | last {i : Item} {b t b' : Text} (hb : b.Blank) (h : i.Writes t) (hb' : b'.Blank) :
      WritesItems [i] (b ++ (t ++ b'))
  | more {i : Item} {items : List Item} {b t b' u : Text} (hb : b.Blank) (h : i.Writes t)
      (hb' : b'.Blank)
      (hs : WritesItems items u) : WritesItems (i :: items) (b ++ (t ++ b') ++ ',' :: u)

def Item.text (d : Dialect) (i : Item) (sql : Text) : Text :=
  match i.label with
  | some label => sql ++ " AS ".toList ++ d.quoteName label
  | none => sql

variable {o : Operand} {c : Column} {i : Item} {items : List Item} {t label : Text} {ctx : Context}

theorem unlabelled_column (h : c.Spells t) : Unlabelled t := by
  have last {u name t : Text} (hu : u = [] ∨ ∃ s, u = s ++ ['.']) (h : Column.WritesLast name t) :
      Unlabelled (u ++ t) := by
    cases h with
    | name h => exact unlabelled_name hu h
    | star =>
      have hstar : (u ++ ['*']).getLast? = some '*' := List.getLast?_concat
      exact unlabelled_of_last hstar (by decide) (by decide)
  cases h with
  | plain h => exact last (.inl rfl) h
  | @qualified q name s t hq h =>
    have hpoint := last (.inr ⟨s, rfl⟩) h
    rwa [List.append_assoc] at hpoint
  | @path q name p t scalar h hp =>
    refine unlabelled_of_last (d := '\'') ?_ (by decide) (by decide)
    simp [Text.quoted, List.getLast?_append, List.getLast?_cons]

theorem not_blank_of_number (h : Operand.isNumber t = true) : ∀ c ∈ t, isBlank c = false := by
  intro c hc
  rcases (Operand.numeral_of_isNumber h).chars c hc with hchar | rfl
  · exact (Operand.not_special_of_isNumberChar hchar).2
  · decide

theorem not_blank_of_null (h : Operand.isNullWord t = true) : ∀ c ∈ t, isBlank c = false := by
  have letters : ∀ d ∈ "nulNUL".toList, isBlank d = false := Text.forall_mem_of_all (by decide)
  intro c hc
  exact letters c (Operand.mem_of_isNullWord h c hc)

/-- What stands in quotes or brackets, or is a call, ends with a character that no label ends
with. -/
theorem unlabelled_of_closed {d : Char} (h : t.getLast? = some d) (hd : d ∈ ['?', '\'', ']', ')']) :
    Unlabelled t := by
  have plain : ∀ d ∈ ['?', '\'', ']', ')'], isWordChar d = false ∧ d ≠ '\x60' :=
    Text.forall_mem_of_all (by decide)
  exact unlabelled_of_last h (plain d hd).1 (plain d hd).2

theorem unlabelled_call (name t : Text) : Unlabelled (name ++ '(' :: (t ++ [')'])) :=
  unlabelled_of_closed (d := ')') (by simp [List.getLast?_append, List.getLast?_cons]) (by decide)

theorem unlabelled_simple (h : o.Writes t) : Unlabelled t := by
  cases h with
  | auto => exact unlabelled_of_closed rfl (by decide)
  | null h => exact unlabelled_of_not_blank (not_blank_of_null h)
  | parameter hne h =>
    refine unlabelled_of_not_blank (List.forall_mem_cons.2 ⟨by decide, fun c hc => ?_⟩)
    exact isBlank_of_isWordChar (List.all_eq_true.1 h c hc)
  | number h => exact unlabelled_of_not_blank (not_blank_of_number h)
  | text =>
    exact unlabelled_of_closed (d := '\'') (by simp [Text.quoted, List.getLast?_cons]) (by decide)
  | array h =>
    exact unlabelled_of_closed (d := ']') (by simp [Json.written, List.getLast?_cons]) (by decide)
  | column h _ => exact unlabelled_column h.spells
  | call hn h => exact unlabelled_call _ _

theorem unlabelled_operand (h : o.Spells t) : Unlabelled t := by
  cases h with
  | simple h => exact unlabelled_simple h
  | wildcard h _ => exact unlabelled_column h
  | call _ _ _ => exact unlabelled_call _ _

theorem operandOf_eq (h : Operand.argument t = .ok o) (ha : o.isAuto = false) :
    operandOf t = .ok o := by
  unfold Operand.argument at h
  unfold operandOf
  cases hc : Column.read? t with
  | error e => simp [hc] at h
  | ok c =>
    cases c with
    | none =>
      simp only [hc] at h
      simp [h, ha, bind, Except.bind]
      rfl
    | some c =>
      simp only [hc] at h
      by_cases hw : c.isWildcard = true
      · simp only [hw, if_true] at h
        cases h
        simp [hw, bind, Except.bind]
        rfl
      · simp only [hw] at h
        simpa [hw, bind, Except.bind] using h

theorem Item.Writes.read (h : i.Writes t) : Item.read t = .ok i := by
  cases h with
  | plain h ha =>
    rw [Item.read, splitLabel?_of_unlabelled (unlabelled_operand h)]
    simp only [h.item.part.trim, operandOf_eq h.item.argument ha, bind, Except.bind]
    rfl
  | labelled h ha hl =>
    obtain ⟨d, hd, hblank⟩ := h.item.part.last
    rw [Item.read, splitLabel?_label hd hblank hl]
    simp only [h.item.part.trim, operandOf_eq h.item.argument ha, bind, Except.bind]
    rfl

theorem part_labelText (h : Operand.Part t) (label : Text) :
    Operand.Part (t ++ labelText label) := by
  have space : Text.Blank [' '] := Text.forall_mem_of_all (by decide)
  have keyword : Solid ['A', 'S'] := solid_chars (by simp) (Text.forall_mem_of_all (by decide))
  have name : Solid (Text.quoted backtick label) := solid_quoted rfl (quotes_escape label)
  have hlabel : labelText label = [' '] ++ (['A', 'S'] ++ ([' '] ++ Text.quoted backtick label)) :=
    rfl
  rw [hlabel]
  exact h.spaced space ((Operand.part_of_solid keyword).spaced space (Operand.part_of_solid name))

theorem Item.Writes.part (h : i.Writes t) : Operand.Part t := by
  cases h with
  | plain h _ => exact h.item.part
  | labelled h _ _ => exact part_labelText h.item.part _

theorem WritesItems.ne_nil (h : WritesItems items t) : items ≠ [] := by
  cases h <;> simp

theorem WritesItems.commaList (h : WritesItems items t) :
    ∃ texts, Operand.CommaList texts t ∧ List.Forall₂ (fun s i => Item.Writes i s) texts items := by
  induction h with
  | last hb h hb' => exact ⟨_, .last _ hb hb', .cons h .nil⟩
  | more hb h hb' hs ih =>
    obtain ⟨texts, hlist, hitems⟩ := ih
    cases hitems with
    | nil => exact absurd rfl hs.ne_nil
    | cons hi hitems => exact ⟨_, .more _ hb hb' hlist, .cons h (.cons hi hitems)⟩

theorem start_eq (h : WritesItems items t) (target : Target) :
    start target t = .ok { context := { target }, items } := by
  obtain ⟨texts, hlist, hitems⟩ := h.commaList
  have hparts : ∀ s ∈ texts, Operand.Part s := by
    intro s hs
    obtain ⟨i, -, hi⟩ := exists_of_forall₂ hitems s hs
    exact hi.part
  have htexts : Token.commaList t = .ok texts :=
    Operand.items_of_scans (fun _ => rfl) (fun _ => rfl) (List.forall₂_same.2 fun _ _ => rfl)
      (hlist.scans hparts)
  have hread : texts.mapM Item.read = .ok items :=
    mapM_eq_ok_iff.2 (hitems.imp fun _ _ hi => hi.read)
  have hne : items.isEmpty = false := by simpa using h.ne_nil
  simp only [start, htexts, hread, hne, bind, Except.bind]
  rfl

theorem Item.sql_eq_ok_iff {part : Text} :
    i.sql ctx = .ok part ↔ ∃ sql, i.operand.sql ctx = .ok sql ∧ part = i.text ctx.dialect sql := by
  constructor
  · intro h
    obtain ⟨sql, hsql, h⟩ := exists_of_bind_eq_ok h
    refine ⟨sql, hsql, ?_⟩
    unfold text
    cases hl : i.label with
    | none =>
      simp only [hl] at h
      cases h
      rfl
    | some label =>
      simp only [hl] at h
      cases h
      rfl
  · rintro ⟨sql, hsql, rfl⟩
    unfold Item.sql text
    rw [hsql]
    cases i.label <;> rfl

theorem forall₂_sql_iff {parts : List Text} :
    List.Forall₂ (fun i part => Item.sql ctx i = .ok part) items parts ↔
      ∃ sqls, List.Forall₂ (fun i sql => i.operand.sql ctx = .ok sql) items sqls ∧
        parts = items.zipWith (Item.text ctx.dialect) sqls := by
  constructor
  · intro h
    induction h with
    | nil => exact ⟨[], .nil, rfl⟩
    | cons hi _ ih =>
      obtain ⟨sql, hsql, rfl⟩ := Item.sql_eq_ok_iff.1 hi
      obtain ⟨sqls, hsqls, rfl⟩ := ih
      exact ⟨sql :: sqls, .cons hsql hsqls, rfl⟩
  · rintro ⟨sqls, hsqls, rfl⟩
    induction hsqls with
    | nil => exact .nil
    | cons hsql _ ih => exact .cons (Item.sql_eq_ok_iff.2 ⟨_, hsql, rfl⟩) ih

theorem sql_list (ctx : Context) (items : List Item) : Select.sql { context := ctx, items } =
    (items.mapM (Item.sql ctx)).map fun parts => "SELECT ".toList ++
      Text.joined ", ".toList parts := by
  have hnothing (keyword : Text) : Statement.clause keyword none = [] := rfl
  unfold Select.sql
  cases hitems : items.mapM (Item.sql ctx) with
  | error e => simp [bind, Except.bind, Except.map]
  | ok parts =>
    simp [tablesSql, conditionSql, havingSql, limitSql, Statement.conditionSql, listSql, hnothing,
      bind, Except.bind, Except.map, pure, Except.pure]

/-- Every list that may be written is accepted; its SQL is the items in order, each with its label,
exactly if each operand has SQL. -/
theorem sql_of_items (h : WritesItems items t) (target : Target) :
    ∃ s, start target t = .ok s ∧ ∀ params sql,
      ((Statement.select s).withParams params).sql = .ok sql ↔
      ∃ sqls, List.Forall₂ (fun i sql => i.operand.sql ⟨target, params⟩ = .ok sql) items sqls ∧
        sql = "SELECT ".toList ++
          Text.joined ", ".toList (items.zipWith (Item.text target.dialect) sqls) := by
  refine ⟨_, start_eq h target, fun params sql => ?_⟩
  rw [Statement.withParams, Statement.withContext, Statement.sql, sql_list]
  constructor
  · intro hsql
    obtain ⟨parts, hparts, rfl⟩ := exists_of_map_eq_ok hsql
    obtain ⟨sqls, hsqls, rfl⟩ := forall₂_sql_iff.1 (mapM_eq_ok_iff.1 hparts)
    exact ⟨sqls, hsqls, rfl⟩
  · rintro ⟨sqls, hsqls, rfl⟩
    have hparts := mapM_eq_ok_iff.2 (forall₂_sql_iff.2 ⟨sqls, hsqls, rfl⟩)
    exact congrArg (Except.map _) hparts

/-- Names, texts and labels that read like labels. -/
theorem sql_of_items_misleading : ∃ s,
    start {} "u.*, `n AS \\`x\\`` AS `m AS \\`y\\``, g(' AS `z`',h(*))".toList = .ok s ∧
      ((Statement.select s).withParams .empty).sql =
        .ok "SELECT `u`.*, `n AS ``x``` AS `m AS ``y```, G(' AS `z`', H(*))".toList := by
  have space : Text.Blank [' '] := Text.forall_mem_of_all (by decide)
  have word {c : Char} (hc : Name.isStart c = true) : Name.IsWord [c] := ⟨c, [], rfl, hc, by simp⟩
  have all : Operand.Spells (.column { qualifier := some ['u'], name := ['*'] }) "u.*".toList :=
    .wildcard (.qualified (.bare (word (by decide))) .star) rfl
  have column : Operand.Spells (.column { name := "n AS `x`".toList }) "`n AS \\`x\\``".toList :=
    .simple (.column (.plain (.quoted (by decide)) (by decide)) (by decide))
  have inner : Operand.Spells (.call (Text.upper ['h']) [.column { name := ['*'] }])
    "h(*)".toList :=
    .call (word (by decide)) (by decide)
      (.last Text.blank_nil (.wildcard (.plain .star) rfl) Text.blank_nil)
  have outer : Operand.Spells (.call (Text.upper ['g'])
      [.literal " AS `z`".toList, .call (Text.upper ['h']) [.column { name := ['*'] }]])
      "g(' AS `z`',h(*))".toList :=
    .call (word (by decide)) (by decide) (.more Text.blank_nil (.simple .text) Text.blank_nil
      (.last Text.blank_nil inner Text.blank_nil))
  have written : WritesItems _ _ := .more Text.blank_nil (.plain all rfl) Text.blank_nil
    (.more space (.labelled column rfl (by decide : "m AS `y`".toList ≠ [])) Text.blank_nil
      (.last space (.plain outer rfl) Text.blank_nil))
  obtain ⟨s, hs, hsql⟩ := sql_of_items written {}
  refine ⟨s, hs,
    (hsql .empty _).2 ⟨["`u`.*".toList, "`n AS ``x```".toList, "G(' AS `z`', H(*))".toList], ?_,
      ?_⟩⟩
  · exact .cons (by decide +kernel) (.cons (by decide +kernel) (.cons (by decide +kernel) .nil))
  · decide +kernel

/-- A function whose name ends with a combining mark compiles by itself, but neither in front of a
label nor inside another call: there its parentheses are taken for a group. -/
theorem not_start_of_marked_call : Name.IsWord "F\u0301".toList ∧
    (start {} "F\u0301(1)".toList >>= Select.sql) = .ok "SELECT F\u0301('1')".toList ∧
    (∀ s, start {} ("F\u0301(1)".toList ++ labelText ['x']) ≠ .ok s) ∧
    ∀ s, start {} "G(F\u0301(1))".toList ≠ .ok s := by
  have refused {t : Text} (h : (start {} t).isOk = false) : ∀ s, start {} t ≠ .ok s := by
    intro s hs
    rw [hs] at h
    cases h
  refine ⟨⟨'F', ['\u0301'], rfl, by decide, Text.forall_mem_of_all (by decide +kernel)⟩,
    by decide +kernel, ?_, ?_⟩
  · exact refused (by decide +kernel)
  · exact refused (by decide +kernel)

end QueryShorthand.Select
