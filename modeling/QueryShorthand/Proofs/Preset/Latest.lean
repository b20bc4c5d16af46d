import QueryShorthand.Preset.Stock
import QueryShorthand.Proofs.Join.Failure
import QueryShorthand.Proofs.Join.Writing
import QueryShorthand.Proofs.Statement.Deletion

/-! The preset of the latest row in each group, which joins its table with itself. -/
namespace QueryShorthand

theorem nests_of_plain {t : Text}
    (h : ∀ c ∈ t, (c ≠ '\\' ∧ isQuote c = false) ∧ c ≠ '[' ∧ c ≠ ']') :
    Nests t := by
  induction t with
  | nil => exact .nil
  | cons c t ih =>
    obtain ⟨⟨hc, ho, hcl⟩, ht⟩ := List.forall_mem_cons.1 h
    exact .atom (atom_char hc) (by simpa using ho) (by simpa using hcl) (ih ht)

theorem nests_of_signs {t : Text} (h : ∀ c ∈ t, isWordChar c = true ∨ c ∈ ".=,<".toList) :
    Nests t := by
  refine nests_of_plain fun c hc => ?_
  rcases h c hc with hc | hc
  · have ne {d : Char} (hd : isWordChar d = false) : c ≠ d := by
      rintro rfl
      simp [hd] at hc
    have hquote : isQuote c = false := by
      simp [isQuote, ne (d := '\'') (by decide), ne (d := '"') (by decide),
        ne (d := '\x60') (by decide)]
    exact ⟨⟨ne (by decide), hquote⟩, ne (by decide), ne (by decide)⟩
  · have signs : ∀ c ∈ ".=,<".toList, (c ≠ '\\' ∧ isQuote c = false) ∧ c ≠ '[' ∧ c ≠ ']' :=
      Text.forall_mem_of_all (by decide)
    exact signs c hc

theorem Select.sql_eq {s : Select} {items : List Text} {tables head filter : Text}
    {condition : Option Text} (hi : s.items.mapM (·.sql s.context) = .ok items)
    (ht : s.tablesSql = .ok (some tables)) (hc : s.conditionSql = .ok condition)
    (hg : s.grouping = []) (hh : s.having = none) (ho : s.order = []) (hl : s.limit = none)
    (hhead : "SELECT ".toList ++ (if s.distinct then "DISTINCT ".toList else []) = head)
    (hfilter : Statement.clause "WHERE".toList condition = filter) :
    s.sql =
      .ok (head ++ Text.joined ", ".toList items ++ (" FROM ".toList ++ tables) ++ filter) := by
  have hfrom : Statement.clause "FROM".toList (some tables) = " FROM ".toList ++ tables := rfl
  have hnothing (keyword : Text) : Statement.clause keyword none = [] := rfl
  have hhaving : s.havingSql = .ok none := by rw [havingSql, hh, Statement.conditionSql]
  have hlimit : s.limitSql = none := by rw [limitSql, hl, Option.map_none]
  simp only [sql, hi, ht, hc, hg, ho, hhaving, hlimit, listSql, List.isEmpty_nil, if_true, bind,
    Except.bind, pure, Except.pure]
  simp only [hhead, hfilter, hfrom, hnothing, List.append_nil]

namespace Preset.Latest

variable {ctx : Context} {side : Char} {table name group order : Text}

/-- A name behind the side `l` or `r` of the join. -/
def sideText (side : Char) (name : Text) : Text := side :: '.' :: name

def sideColumn (side : Char) (name : Text) : Column := { qualifier := some [side], name }

theorem ne_star (h : Name.IsWord name) : name ≠ ['*'] := by
  rintro rfl
  exact absurd (h.isWordChar '*' List.mem_cons_self) (by decide)

theorem isWord_side (hs : Name.isStart side = true) : Name.IsWord [side] :=
  ⟨side, [], rfl, hs, by simp⟩

def sideSql (ctx : Context) (side : Char) (name : Text) : Text :=
  ctx.quoteName [side] ++ '.' :: ctx.quoteName name

theorem sql_sideColumn (hn : Name.IsWord name) :
    (sideColumn side name).sql ctx = sideSql ctx side name := by
  have hwild : (sideColumn side name).isWildcard = false := by
    simpa [sideColumn, Column.isWildcard] using ne_star hn
  simp only [Column.sql, hwild]
  rfl

theorem writes_sideColumn (hs : Name.isStart side = true) (hn : Name.IsWord name) :
    Operand.Writes (.column (sideColumn side name)) (sideText side name) := by
  have hcolumn : Column.Writes (sideColumn side name) ([side] ++ '.' :: name) :=
    .qualified (.bare (isWord_side hs)) (.bare hn) (ne_star hn)
  exact .column hcolumn (Operand.not_isNullWord (c := '.') (by simp [sideText]) (by decide))

theorem writesClip_compare (op : Operator) {o : Operand} {t : Text} (hs : Name.isStart side = true)
    (hn : Name.IsWord name) (ho : o.Writes t) :
    Expr.WritesClip (.compare (.column (sideColumn side name)) op o)
      (sideText side name ++ (op.symbol ++ t)) := by
  have hatom : Expr.WritesAtom (.compare (.column (sideColumn side name)) op o)
      (sideText side name ++ ([] ++ (op.symbol ++ ([] ++ t)))) :=
    .compare (writes_sideColumn hs hn) Text.blank_nil Text.blank_nil ho rfl
      (by simp [Operand.isParameter])
  have hclip : Expr.WritesClip (Expr.negated 0 _) ([] ++ (_ ++ [])) := .mk rfl hatom Text.blank_nil
  rw [List.append_nil] at hclip
  exact hclip

/-- The same group, and a later row on the right side. -/
def later (group order : Text) : Text :=
  sideText 'l' group ++ (['='] ++ sideText 'r' group) ++
    ',' :: (sideText 'l' order ++ (['<'] ++ sideText 'r' order))

theorem read_later (hg : Name.IsWord group) (ho : Name.IsWord order) :
    ∃ c, Condition.read (later group order) = .ok c ∧ c.isEmpty = false ∧
    ∀ ctx, c.sql ctx = .ok (some
      (sideSql ctx 'l' group ++ " = ".toList ++ sideSql ctx 'r' group ++ " AND ".toList ++
        (sideSql ctx 'l' order ++ " < ".toList ++ sideSql ctx 'r' order))) := by
  have hl : Name.isStart 'l' = true := by decide
  have hr : Name.isStart 'r' = true := by decide
  have hclips : Expr.WritesClips [_, _] (later group order) :=
    .more (writesClip_compare .equal hl hg (writes_sideColumn hr hg))
      (.last (writesClip_compare .less hl ho (writes_sideColumn hr ho)))
  refine ⟨_, hclips.read, rfl, fun ctx => ?_⟩
  have hsql (source : Text) (e : Expr) : Condition.sql ctx ⟨source, some e⟩ =
      (e.sql ctx).map some := rfl
  have equal (c d : Column) : (Expr.compare (.column c) .equal (.column d)).sql ctx =
      .ok (c.sql ctx ++ " = ".toList ++ d.sql ctx) := rfl
  have less (c d : Column) : (Expr.compare (.column c) .less (.column d)).sql ctx =
      .ok (c.sql ctx ++ " < ".toList ++ d.sql ctx) := by
    rw [List.append_assoc]
    rfl
  rw [hsql, Expr.sql_collapsed_all, Expr.joinedSql_cons (by simp), Expr.joinedSql_singleton, equal,
    less, sql_sideColumn hg, sql_sideColumn hg, sql_sideColumn ho, sql_sideColumn ho]
  rfl

theorem nests_later (hg : Name.IsWord group) (ho : Name.IsWord order) :
    Nests (later group order) := by
  have sign {c : Char} (h : c ∈ ".=,<".toList) : isWordChar c = true ∨ c ∈ ".=,<".toList := .inr h
  have side {c : Char} {n : Text} (hc : isWordChar c = true) (hn : Name.IsWord n) :
      ∀ d ∈ sideText c n, isWordChar d = true ∨ d ∈ ".=,<".toList :=
    List.forall_mem_cons.2 ⟨.inl hc, List.forall_mem_cons.2 ⟨sign (by decide), fun d hd =>
      .inl (hn.isWordChar d hd)⟩⟩
  have hl : isWordChar 'l' = true := by decide
  have hr : isWordChar 'r' = true := by decide
  refine nests_of_signs ?_
  simp only [later, List.forall_mem_append, List.forall_mem_cons, List.cons_append, List.nil_append]
  exact ⟨⟨side hl hg, sign (by decide), side hr hg⟩, sign (by decide), side hl ho, sign (by decide),
    side hr ho⟩

theorem trimEnd_later (ho : Name.IsWord order) :
    (later group order).trimEnd = later group order := by
  obtain ⟨c, hc, hb⟩ := (Name.solid_of_isWord ho).last
  exact Text.trimEnd_of_last
    (by simp [later, sideText, List.getLast?_append, List.getLast?_cons, hc]) hb

def unmatched (order : Text) : Text := sideText 'r' order ++ (['='] ++ "null".toList)

theorem read_unmatched (ho : Name.IsWord order) :
    ∃ c, Condition.read (unmatched order) = .ok c ∧ ∀ ctx, c.sql ctx =
      .ok (some (sideSql ctx 'r' order ++ " IS NULL".toList)) := by
  have hr : Name.isStart 'r' = true := by decide
  have hnull : Operand.Writes .null "null".toList := .null (by decide)
  have hclips : Expr.WritesClips [_] (unmatched order) :=
    .last (writesClip_compare .equal hr ho hnull)
  refine ⟨_, hclips.read, fun ctx => ?_⟩
  rw [← sql_sideColumn ho]
  rfl

def tables (table group order : Text) : Text :=
  sideText 'l' table ++
    (['<'] ++ (sideText 'r' table ++ '[' :: ('?' :: later group order ++ [']'])))

theorem read_tables (setting : Join.Setting) (ht : Name.IsWord table) {c : Condition}
    (hc : Condition.read (later group order) = .ok c) (hne : c.isEmpty = false)
    (hg : Name.IsWord group) (ho : Name.IsWord order) :
    Join.read setting (tables table group order) = .ok {
      source := tables table group order
      steps := [.mk none (.table table (some ['l'])) none,
        .mk (some .left) (.table table (some ['r'])) (some (.condition c))] } := by
  have hl : Name.Writes ['l'] ['l'] := .bare (isWord_side (by decide))
  have hr : Name.Writes ['r'] ['r'] := .bare (isWord_side (by decide))
  have hbracket :
      Join.WritesBracket (some (.condition c)) ('[' :: ('?' :: later group order ++ [']'])) :=
    .enclosed (.condition hc hne (trimEnd_later ho) (nests_later hg ho))
  have hrest : Join.WritesRest [.mk (some .left) (.table table (some ['r'])) (some (.condition c))]
      (['<'] ++ (sideText 'r' table ++ '[' :: ('?' :: later group order ++ [']']) ++ [])) :=
    .more (.aliased hr (.bare ht)) hbracket (by simp) .nil
  rw [List.append_nil] at hrest
  have hsteps : Join.WritesSteps _ (tables table group order) := .mk (.aliased hl (.bare ht)) hrest
  exact hsteps.yields.read

theorem sql_tables {c : Condition} {t : Text} (htable : table ≠ []) (hc : c.sql ctx = .ok (some t))
    (source : Text) : Join.sql ctx {
      source
      steps := [.mk none (.table table (some ['l'])) none,
        .mk (some .left) (.table table (some ['r'])) (some (.condition c))] } =
      .ok (ctx.quoteName (ctx.target.tablePrefix ++ table) ++ " AS ".toList ++
        ctx.quoteName ['l'] ++
        " LEFT JOIN ".toList ++ ctx.quoteName (ctx.target.tablePrefix ++ table) ++ " AS ".toList ++
        ctx.quoteName ['r'] ++ " ON ".toList ++ t) := by
  simp only [Join.sql, Join.stepsSql, Join.restSql, Join.Source.reference, Join.Source.sql,
    Bindings.get?_empty, Join.bracketSql, Join.tableName_ok htable, hc]
  have hjoin : " LEFT JOIN ".toList =
      ' ' :: (((some Join.Kind.left).getD .inner).keyword ++ [' ']) := rfl
  simp only [bind, Except.bind, pure, Except.pure, Except.map, hjoin, List.append_assoc,
    List.cons_append, List.nil_append, List.append_nil]
  rfl

def leftColumns : Select.Item := ⟨.column { qualifier := some ['l'], name := ['*'] }, none⟩

theorem start_leftColumns (target : Target) : Select.start target "l.*".toList =
    .ok { context := { target }, items := [leftColumns] } := by
  have hlist : Token.commaList "l.*".toList = .ok ["l.*".toList] :=
    eq_ok_of_toOption (by decide +kernel)
  rw [Select.start, hlist]
  rfl

theorem query_eq (site : Site) {j : Join} {c : Condition}
    (hj : Join.read ⟨site.target, .empty⟩ (tables site.table group order) = .ok j)
    (hc : Condition.read (unmatched order) = .ok c) :
    query site group order = Select.sql {
      context := { target := site.target }
      items := [leftColumns]
      tables := some { j with subqueries := .empty }
      condition := some c } := by
  have htables : 'l' :: '.' :: site.table ++ '<' :: 'r' :: '.' :: site.table ++ "[?".toList ++
      'l' :: '.' :: group ++ '=' :: 'r' :: '.' :: group ++ ',' :: 'l' :: '.' :: order ++
      '<' :: 'r' :: '.' :: order ++ [']'] = tables site.table group order := by
    have hopen : "[?".toList = ['[', '?'] := rfl
    simp only [tables, later, sideText, hopen, List.append_assoc, List.cons_append, List.nil_append]
  have hcondition : 'r' :: '.' :: order ++ "=null".toList = unmatched order := rfl
  unfold query
  rw [start_leftColumns]
  simp only [Select.withTables, htables, bind, Except.bind, hj, Select.withCondition, hcondition,
    hc, pure, Except.pure]

def text (ctx : Context) (t group order : Text) : Text :=
  "SELECT ".toList ++ (ctx.quoteName ['l'] ++ ".*".toList) ++
    (" FROM ".toList ++ (t ++ " AS ".toList ++ ctx.quoteName ['l'] ++
      " LEFT JOIN ".toList ++ t ++ " AS ".toList ++ ctx.quoteName ['r'] ++
      " ON ".toList ++ (sideSql ctx 'l' group ++ " = ".toList ++ sideSql ctx 'r' group ++
        " AND ".toList ++ (sideSql ctx 'l' order ++ " < ".toList ++ sideSql ctx 'r' order)))) ++
    (" WHERE ".toList ++ (sideSql ctx 'r' order ++ " IS NULL".toList))

theorem sql_query (site : Site) (ht : Name.IsWord site.table) (hg : Name.IsWord group)
    (ho : Name.IsWord order) : query site group order = .ok (text { target := site.target }
      (site.target.dialect.quoteName (site.target.tablePrefix ++ site.table)) group order) := by
  obtain ⟨c, hc, hne, hsql⟩ := read_later hg ho
  obtain ⟨d, hd, hnull⟩ := read_unmatched ho
  have hj := read_tables ⟨site.target, .empty⟩ ht hc hne hg ho
  have hfrom := sql_tables (Name.solid_of_isWord ht).ne_nil (hsql { target := site.target })
  have hitem : leftColumns.sql { target := site.target } =
      .ok (Context.quoteName { target := site.target } ['l'] ++ ".*".toList) := rfl
  have hitems := mapM_eq_ok_iff.2 (.cons hitem .nil)
  rw [query_eq site hj hd]
  refine Eq.trans
    (Select.sql_eq hitems (congrArg (Except.map some) (hfrom _)) (hnull _) rfl rfl rfl rfl
    (List.append_nil _) rfl) ?_
  rewrite [Text.joined, List.intercalate_singleton]
  rfl

end Preset.Latest

end QueryShorthand
