import QueryShorthand.Proofs.Operand.Items
import QueryShorthand.Proofs.Preset.Latest
import QueryShorthand.Proofs.Preset.Session
import QueryShorthand.Proofs.Statement.Labels

/-! The presets of the library over a table whose name is a word. -/
namespace QueryShorthand

theorem Token.commaList_joined {ts : List Text} (hs : ∀ t ∈ ts, Solid t) :
    commaList (Text.joined ", ".toList ts) = .ok ts := by
  refine Operand.items_joined (fun _ => rfl) (fun _ => rfl) ?_ (List.forall₂_same.2 fun _ _ => rfl)
  exact fun t ht => (Operand.entry_of_solid (hs t ht)).isItem

namespace Select

variable {c : Text}

/-- What a word of the select list is: a column, unless it is the word null. -/
def wordItem (c : Text) : Item :=
  ⟨if Operand.isNullWord c then .null else .column { name := c }, none⟩

theorem read_word (h : Name.IsWord c) : Item.read c = .ok (wordItem c) := by
  have hlabel : splitLabel? c = none :=
    splitLabel?_of_unlabelled (unlabelled_name (.inl rfl) (.bare h))
  have hwrites : Column.Writes { name := c } c := .plain (.bare h) (Preset.Latest.ne_star h)
  have hread :
      Operand.read c = .ok (if Operand.isNullWord c then .null else .column { name := c }) := by
    by_cases hnull : Operand.isNullWord c = true
    · rw [if_pos hnull]
      exact (Operand.legible_null hnull).read
    · rw [if_neg hnull]
      exact (Operand.legible_column hwrites (by simpa using hnull)).read
  have hcolumn := Column.read?_writes hwrites
  have hwild := Column.not_isWildcard_of_writes hwrites
  rw [Item.read, hlabel]
  simp only [(Name.solid_of_isWord h).trim, operandOf, hcolumn, hwild, hread, bind, Except.bind]
  rfl

end Select

namespace Preset

theorem isWord_of_bareColumn {preset arg c : Text} (h : bareColumn preset arg = .ok c) :
    c = arg ∧ Name.IsWord arg := by
  unfold bareColumn at h
  split at h
  · next col hcol =>
    split at h
    · next hplain =>
      cases h
      simp only [Bool.and_eq_true, Bool.not_eq_true', beq_iff_eq] at hplain
      exact ⟨hplain.2, Column.isWord_of_read? hcol hplain.1.1 hplain.1.2 hplain.2⟩
    · cases h
  · cases h

theorem isWord_of_bareColumns {preset : Text} {args columns : List Text}
    (h : args.mapM (bareColumn preset) = .ok columns) :
    columns = args ∧ ∀ c ∈ columns, Name.IsWord c := by
  have hpairs := mapM_eq_ok_iff.1 h
  clear h
  induction hpairs with
  | nil => simp
  | cons hc _ ih =>
    obtain ⟨rfl, hword⟩ := isWord_of_bareColumn hc
    exact ⟨by rw [ih.1], List.forall_mem_cons.2 ⟨hword, ih.2⟩⟩

theorem isWord_of_latest {args : List Text} {columns : Option (Text × Text)}
    (h : Latest.columns args = .ok columns) : ∃ group order,
      columns = some (group, order) ∧ args = [group, order] ∧ Name.IsWord group ∧
      Name.IsWord order := by
  unfold Latest.columns at h
  split at h
  · obtain ⟨g, hg, h⟩ := exists_of_bind_eq_ok h
    obtain ⟨o, ho, h⟩ := exists_of_bind_eq_ok h
    cases h
    obtain ⟨rfl, hg⟩ := isWord_of_bareColumn hg
    obtain ⟨rfl, ho⟩ := isWord_of_bareColumn ho
    exact ⟨g, o, rfl, rfl, hg, ho⟩
  · cases h

theorem isWord_of_distinct {args columns : List Text} (h : Distinct.columns args = .ok columns) :
    columns ≠ [] ∧ args = columns ∧ ∀ c ∈ columns, Name.IsWord c := by
  unfold Distinct.columns at h
  split at h
  · cases h
  · next hne =>
    obtain ⟨rfl, hwords⟩ := isWord_of_bareColumns h
    exact ⟨by simpa using hne, rfl, hwords⟩

namespace Distinct

open Select (wordItem)

variable {ctx : Context}

def columnSql (ctx : Context) (c : Text) : Text :=
  if Operand.isNullWord c then "NULL".toList else ctx.quoteName c

def text (ctx : Context) (t : Text) (columns : List Text) : Text :=
  "SELECT DISTINCT ".toList ++ Text.joined ", ".toList (columns.map (columnSql ctx)) ++
    (" FROM ".toList ++ t)

theorem sql_item {c : Text} (h : Name.IsWord c) :
    (Select.wordItem c).sql ctx = .ok (columnSql ctx c) := by
  unfold columnSql Select.wordItem
  by_cases hnull : Operand.isNullWord c = true
  · rw [if_pos hnull, if_pos hnull]
    rfl
  · have hwild : ({ name := c } : Column).isWildcard = false := by
      simpa [Column.isWildcard] using Latest.ne_star h
    have hcolumn : ({ name := c } : Column).sql ctx = ctx.quoteName c := by simp [Column.sql, hwild]
    rw [if_neg hnull, if_neg hnull, ← hcolumn]
    rfl

section

variable {target : Target} {table : Text} {columns : List Text}

theorem start_words (target : Target) (hne : columns ≠ []) (hc : ∀ c ∈ columns, Name.IsWord c) :
    Select.start target (Text.joined ", ".toList columns) =
      .ok { context := { target }, items := columns.map wordItem } := by
  have hlist := Token.commaList_joined fun c hm => Name.solid_of_isWord (hc c hm)
  have hread : columns.mapM Select.Item.read = .ok (columns.map wordItem) := by
    rw [mapM_eq_ok_iff, List.forall₂_map_right_iff]
    exact List.forall₂_same.2 fun c hm => Select.read_word (hc c hm)
  have hsome : (columns.map wordItem).isEmpty = false := by simpa using hne
  simp only [Select.start, hlist, hread, hsome, bind, Except.bind]
  rfl

theorem sql_words (hc : ∀ c ∈ columns, Name.IsWord c) :
    (columns.map wordItem).mapM (Select.Item.sql ctx) = .ok (columns.map (columnSql ctx)) := by
  rw [mapM_eq_ok_iff, List.forall₂_map_left_iff, List.forall₂_map_right_iff]
  exact List.forall₂_same.2 fun c hm => sql_item (hc c hm)

def alone (table : Text) : Join := { source := table, steps := [.mk none (.table table none) none] }

theorem read_alone (target : Target) (ht : Name.IsWord table) :
    Join.read ⟨target, .empty⟩ table = .ok (alone table) := by
  have hsteps : Join.WritesSteps _ _ := .mk (.table (.bare ht)) .nil
  rw [List.append_nil] at hsteps
  exact hsteps.yields.read

theorem sql_alone (target : Target) (ht : Name.IsWord table) : Join.sql { target } (alone table) =
    .ok (target.dialect.quoteName (target.tablePrefix ++ table)) := by
  have hname := Join.tableName_ok (Name.solid_of_isWord ht).ne_nil target
  simp only [alone, Join.sql, Join.stepsSql, Join.restSql, Join.Source.reference, Join.Source.sql,
    Bindings.get?_empty, hname, bind, Except.bind, pure, Except.pure, List.append_nil]

end

theorem query_eq (site : Site) (ht : Name.IsWord site.table) {columns : List Text}
    (hne : columns ≠ []) (hc : ∀ c ∈ columns, Name.IsWord c) : query site columns = Select.sql {
      context := { target := site.target }
      items := columns.map wordItem
      distinct := true
      tables := some (alone site.table) } := by
  unfold query
  rw [start_words site.target hne hc]
  simp only [Select.withDistinct, Select.withTables, bind, Except.bind, read_alone site.target ht]
  rfl

theorem sql_query (site : Site) (ht : Name.IsWord site.table) {columns : List Text}
    (hne : columns ≠ []) (hc : ∀ c ∈ columns, Name.IsWord c) :
    query site columns = .ok (text { target := site.target }
      (site.target.dialect.quoteName (site.target.tablePrefix ++ site.table)) columns) := by
  have htables := congrArg (Except.map some) (sql_alone site.target ht)
  have hhead : "SELECT ".toList ++ (if true = true then "DISTINCT ".toList else []) =
      "SELECT DISTINCT ".toList := rfl
  have hfilter : Statement.clause "WHERE".toList none = [] := rfl
  rw [query_eq site ht hne hc]
  refine Eq.trans (Select.sql_eq (sql_words hc) htables rfl rfl rfl rfl rfl hhead hfilter) ?_
  exact congrArg Except.ok (List.append_nil _)

end Distinct

/-- Whatever arguments an instance has accepted before, it reads its own table with the last
ones. -/
theorem sql_of_configure (site : Site) (ht : Name.IsWord site.table) (accepted : List (List Text))
    (args : List Text) (p : Preset) :
    (configure ⟨Latest.name, Latest.template, site, accepted⟩ args = .ok p →
      ∃ group order, args = [group, order] ∧ p.sql = .ok (Latest.text { target := site.target }
        (site.target.dialect.quoteName (site.target.tablePrefix ++ site.table)) group order)) ∧
    (configure ⟨Distinct.name, Distinct.template, site, accepted⟩ args = .ok p →
      p.sql = .ok (Distinct.text { target := site.target }
        (site.target.dialect.quoteName (site.target.tablePrefix ++ site.table)) args)) := by
  constructor
  · intro h
    obtain ⟨_, hcolumns, hsql⟩ := sql_of_configured Latest.takes h
    obtain ⟨group, order, rfl, rfl, hg, ho⟩ := isWord_of_latest hcolumns
    exact ⟨group, order, rfl, hsql.trans (Latest.sql_query site ht hg ho)⟩
  · intro h
    obtain ⟨columns, hcolumns, hsql⟩ := sql_of_configured Distinct.takes h
    obtain ⟨hne, rfl, hwords⟩ := isWord_of_distinct hcolumns
    have hset : args.isEmpty = false := by simpa using hne
    rw [hsql, ← Distinct.sql_query site ht hne hwords]
    simp only [Distinct.object, hset]
    rfl

theorem sql_of_configure_again : ∃ p : Preset,
    Name.IsWord "posts".toList ∧
    configure ⟨Latest.name, Latest.template, ⟨⟨.postgres, "p_".toList⟩, "posts".toList, ['x']⟩,
      [["a".toList, "b".toList]]⟩ ["user_id".toList, "id".toList] = .ok p ∧
    p.sql = .ok (Latest.text { target := ⟨.postgres, "p_".toList⟩ } "\"p_posts\"".toList
      "user_id".toList "id".toList) := by
  have hword : Name.IsWord "posts".toList :=
    ⟨'p', "osts".toList, rfl, by decide, Text.forall_mem_of_all (by decide)⟩
  have hcolumns :
      Latest.columns ["user_id".toList, "id".toList] = .ok (some ("user_id".toList, "id".toList)) :=
    eq_ok_of_toOption (by decide +kernel)
  have hconfigure : configure ⟨Latest.name, Latest.template,
      ⟨⟨.postgres, "p_".toList⟩, "posts".toList, ['x']⟩, [["a".toList, "b".toList]]⟩
      ["user_id".toList, "id".toList] = .ok ⟨Latest.name, Latest.template,
        ⟨⟨.postgres, "p_".toList⟩, "posts".toList, ['x']⟩,
        [["a".toList, "b".toList]] ++ [["user_id".toList, "id".toList]]⟩ := by
    rw [Latest.template, configure_object Latest.takes, hcolumns]
    rfl
  obtain ⟨hlatest, -⟩ := sql_of_configure ⟨⟨.postgres, "p_".toList⟩, "posts".toList, ['x']⟩ hword
    [["a".toList, "b".toList]] ["user_id".toList, "id".toList] _
  obtain ⟨group, order, hargs, hsql⟩ := hlatest hconfigure
  cases hargs
  exact ⟨_, hword, hconfigure, hsql⟩

/-- A name in backticks that is no word is read again as the tables of a join. -/
theorem distinct_of_other_tables : ∃ p : Preset,
    Join.Leaf.read? "t.`a-b[id]`->Distinct(id)".toList =
      some ⟨some ['t'], "a-b[id]".toList, some ("Distinct".toList, "id".toList), none⟩ ∧
    configure ⟨Distinct.name, Distinct.template, ⟨{}, "a-b[id]".toList, ['t']⟩, []⟩
      ["id".toList] = .ok p ∧
    p.sql = .ok "SELECT DISTINCT `id` FROM `a` JOIN `b` ON `a`.`id` = `b`.`id`".toList := by
  have hcolumns : Distinct.columns ["id".toList] = .ok ["id".toList] :=
    eq_ok_of_toOption (by decide +kernel)
  refine ⟨⟨Distinct.name, Distinct.template, ⟨{}, "a-b[id]".toList, ['t']⟩, [] ++ [["id".toList]]⟩,
    by decide +kernel, ?_, eq_ok_of_toOption (by decide +kernel)⟩
  rw [Distinct.template, configure_object Distinct.takes, hcolumns]
  rfl

end Preset

end QueryShorthand
