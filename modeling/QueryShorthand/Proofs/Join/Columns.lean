import QueryShorthand.Proofs.Join.Failure
import QueryShorthand.Proofs.Join.Writing
import QueryShorthand.Proofs.Statement.Names

/-! Lists of columns in brackets, which are cut at each comma, beside the lists of statements, where
backticks protect a comma. -/
namespace QueryShorthand

theorem Text.quotedRest?_append {q : Char} {multiline : Bool} {t s r : Text}
    (h : quotedRest? q multiline t = some (s, r)) (u : Text) :
    quotedRest? q multiline (t ++ u) = some (s, r ++ u) := by
  obtain ⟨hq, v, hv, rfl⟩ := quotation_of_quotedRest? h
  rw [List.append_assoc, List.cons_append]
  exact hv.quotedRest? hq (r ++ u)

theorem Text.escape_append (q : Char) (s t : Text) :
    escape q (s ++ t) = escape q s ++ escape q t := by
  induction s with
  | nil => rfl
  | cons c s ih =>
    rw [List.cons_append, escape, escape, ih]
    split <;> rfl

theorem Text.mem_of_mem_escape {q c : Char} {t : Text} (h : c ∈ escape q t) : c = '\\' ∨ c ∈ t := by
  induction t with
  | nil => cases h
  | cons d t ih =>
    rw [escape] at h
    split at h
    · rcases List.mem_cons.1 h with rfl | h
      · exact .inl rfl
      · rcases List.mem_cons.1 h with rfl | h
        · exact .inr List.mem_cons_self
        · exact (ih h).imp_right (List.mem_cons_of_mem _)
    · rcases List.mem_cons.1 h with rfl | h
      · exact .inr List.mem_cons_self
      · exact (ih h).imp_right (List.mem_cons_of_mem _)

/-- What is left of a quoted text once its end is cut off has no closing quote. -/
theorem Name.whole?_unclosed {name u v : Text} (multiline : Bool)
    (h : Text.escape backtick name = u ++ v) :
    Name.whole? multiline ('\x60' :: u) = none := by
  have hquoted : Text.quotedRest? backtick multiline u = none := by
    cases hu : Text.quotedRest? backtick multiline u with
    | none => rfl
    | some p =>
      have hwhole := Text.quotedRest?_append hu (v ++ ['\x60'])
      have hname := Text.quotedRest?_escape (q := backtick) (by decide) multiline name []
      rw [h, List.append_assoc] at hname
      have hend := (Prod.mk.inj (Option.some.inj (hname.symm.trans hwhole))).2
      simp at hend
  rw [Name.whole?, Name.read?, hquoted]

namespace Statement.WritesNames

variable {t : Text} {names : List Text}

theorem trimEnd (h : WritesNames names t) : WritesNames names t.trimEnd := by
  induction h with
  | @last name b t b' hb h hb' =>
    obtain ⟨c, hc, hblank⟩ := h.solid.last
    have hlast : (b ++ t).getLast? = some c := by rw [List.getLast?_append, hc]; rfl
    rw [← List.append_assoc, hb'.trimEnd_append, Text.trimEnd_of_last hlast hblank]
    simpa using WritesNames.last hb h Text.blank_nil
  | more hb h hb' _ ih =>
    rw [Text.trimEnd_append_cons _ (by decide)]
    exact .more hb h hb' ih

theorem trim (h : WritesNames names t) : ∃ name s r, Name.Writes name s ∧ t.trim = s ++ r ∧
    WritesNames names (s ++ r) ∧ Name.Stops r ∧ (Text.trimStart r).head? ≠ some ':' := by
  cases h with
  | @last name b s b' hb h hb' =>
    refine ⟨name, s, [], h, ?_, ?_, (fun _ hc => by cases hc), by simp [Text.trimStart]⟩
    · rw [Text.trim_padded hb hb', h.solid.trim, List.append_nil]
    · simpa using WritesNames.last Text.blank_nil h Text.blank_nil
  | @more name b s b' u names hb h hb' hs =>
    have hcomma : Text.trimStart (b' ++ ',' :: u.trimEnd) = ',' :: u.trimEnd := by
      rw [Text.trimStart, hb'.dropWhile]
      exact Text.trimStart_cons (by decide)
    refine ⟨name, s, b' ++ ',' :: u.trimEnd, h, ?_, ?_, ?_, by simp [hcomma]⟩
    · obtain ⟨c, r, rfl, hc, -⟩ := h.solid.head
      have hstart :
          Text.trimStart (b ++ (c :: r ++ b') ++ ',' :: u) = c :: r ++ (b' ++ ',' :: u) := by
        rw [List.append_assoc, List.append_assoc, Text.trimStart, hb.dropWhile]
        exact Text.trimStart_cons hc
      rw [Text.trim, hstart, ← List.append_assoc, Text.trimEnd_append_cons _ (by decide),
        List.append_assoc]
    · simpa using WritesNames.more Text.blank_nil h hb' hs.trimEnd
    · intro c hc
      cases b' with
      | nil => exact Option.some.inj hc ▸ (by decide)
      | cons d b' =>
        obtain rfl := Option.some.inj hc
        exact not_isWordChar_of_isBlank (hb' _ List.mem_cons_self)

theorem balanced (h : WritesNames names t) : Balanced '[' ']' t := by
  have blank {b : Text} (hb : b.Blank) : Balanced '[' ']' b := by
    refine balanced_of_not_special (by decide) fun c hc => ⟨not_special_of_isBlank (hb c hc), ?_⟩
    rintro rfl
    exact absurd (hb _ hc) (by decide)
  have padded {name b t b' : Text} (hb : b.Blank) (h : Name.Writes name t) (hb' : b'.Blank) :
      Balanced '[' ']' (b ++ (t ++ b')) := by
    refine (blank hb).append (.append ?_ (blank hb'))
    cases h with
    | bare h => exact Join.balanced_isWord h
    | quoted h => exact balanced_quoted rfl (quotes_escape _)
  induction h with
  | last hb h hb' => exact padded hb h hb'
  | more hb h hb' _ ih =>
    have hcomma : Balanced '[' ']' [','] := balanced_char (by decide) (by decide) (by decide)
    exact (padded hb h hb').append (hcomma.append ih)

end Statement.WritesNames

namespace Join

open Statement (WritesNames)

variable {name t u : Text} {names : List Text}

theorem splitCommas_comma {s : Text} (hs : ∀ c ∈ s, c ≠ ',') (t : Text) :
    splitCommas (s ++ ',' :: t) = s :: splitCommas t := by
  have hcomma : splitCommas (',' :: t) = [] :: splitCommas t := by rw [splitCommas, if_pos rfl]
  rw [splitCommas_append hs hcomma, List.append_nil]

theorem splitCommas_of_no_comma {s : Text} (hs : ∀ c ∈ s, c ≠ ',') : splitCommas s = [s] := by
  have hlast := splitCommas_append hs (rfl : splitCommas [] = [[]])
  rwa [List.append_nil] at hlast

theorem ne_comma_of_blank {b : Text} (h : b.Blank) : ∀ c ∈ b, c ≠ ',' := by
  rintro c hc rfl
  exact absurd (h _ hc) (by decide)

theorem ne_comma_of_writes (h : Name.Writes name t) (hname : ',' ∉ name) : ∀ c ∈ t, c ≠ ',' := by
  rintro c hc rfl
  cases h with
  | bare h => exact hname hc
  | quoted h =>
    rcases List.mem_cons.1 hc with hq | hc
    · exact absurd hq (by decide)
    · rcases List.mem_append.1 hc with hc | hc
      · exact (Text.mem_of_mem_escape hc).elim (by decide) hname
      · exact absurd (List.mem_singleton.1 hc) (by decide)

theorem ne_comma_of_padded {b b' : Text} (hb : b.Blank) (h : Name.Writes name t) (hb' : b'.Blank)
    (hname : ',' ∉ name) : ∀ c ∈ b ++ (t ++ b'), c ≠ ',' := by
  refine List.forall_mem_append.2 ⟨ne_comma_of_blank hb, ?_⟩
  exact List.forall_mem_append.2 ⟨ne_comma_of_writes h hname, ne_comma_of_blank hb'⟩

/-- The names of a list, from those of its parts. -/
def partName (refuse : Text → Error) (part : Text) : Except Error Text :=
  match Name.whole? false part.trim with
  | some name => .ok name
  | none => .error (refuse part.trim)

section

variable (refuse : Text → Error)

theorem names_eq (t : Text) : Join.names refuse t = (splitCommas t).mapM (partName refuse) := rfl

theorem partName_padded {b b' : Text} (hb : b.Blank) (h : Name.Writes name t) (hb' : b'.Blank) :
    partName refuse (b ++ (t ++ b')) = .ok name := by
  rw [partName, Text.trim_padded hb hb', h.solid.trim, Name.whole?_writes false h]

theorem names_of_list (h : WritesNames names t) (hn : ∀ n ∈ names, ',' ∉ n) :
    Join.names refuse t = .ok names := by
  induction h with
  | last hb h hb' =>
    have hcomma := ne_comma_of_padded hb h hb' (by simpa using hn)
    rw [names_eq, splitCommas_of_no_comma hcomma, List.mapM_cons, partName_padded refuse hb h hb']
    rfl
  | @more name b t b' u names hb h hb' hs ih =>
    obtain ⟨hname, hnames⟩ := List.forall_mem_cons.1 hn
    have hrest := ih hnames
    rw [names_eq] at hrest ⊢
    rw [splitCommas_comma (ne_comma_of_padded hb h hb' hname), List.mapM_cons,
      partName_padded refuse hb h hb', hrest]
    rfl

theorem partName_unclosed {b v : Text} (hb : b.Blank) (h : Name.Writes name t)
    (hname : ',' ∈ name) :
    ∃ part rest, b ++ (t ++ v) = part ++ ',' :: rest ∧ (∀ c ∈ part, c ≠ ',') ∧
      partName refuse part = .error (refuse part.trim) := by
  cases h with
  | bare h => exact absurd rfl (ne_comma_of_isWord h ',' hname)
  | quoted h =>
    obtain ⟨front, behind, rfl, hfront⟩ := List.eq_append_cons_of_mem hname
    have hcomma : Text.escape '\x60' (',' :: behind) = ',' :: Text.escape '\x60' behind := by
      rw [Text.escape, if_neg (by decide)]
    refine ⟨b ++ '\x60' :: Text.escape backtick front, Text.escape backtick behind ++ backtick :: v,
      ?_, ?_, ?_⟩
    · simp [Text.quoted, Text.escape_append, hcomma, backtick]
    · refine List.forall_mem_append.2 ⟨ne_comma_of_blank hb, List.forall_mem_cons.2 ⟨by decide, ?_⟩⟩
      rintro c hc rfl
      exact (Text.mem_of_mem_escape hc).elim (by decide) hfront
    · have htrim : (b ++ '\x60' :: Text.escape backtick front).trim =
          '\x60' :: (Text.escape backtick front).trimEnd := by
        have hpadded :=
          Text.trim_padded (t := '\x60' :: Text.escape backtick front) hb Text.blank_nil
        rw [List.append_nil] at hpadded
        rw [hpadded, Text.trim_cons (by decide)]
      obtain ⟨v, hv⟩ := Text.exists_trimEnd_append (Text.escape backtick front)
      rw [partName, htrim, Name.whole?_unclosed false hv]

theorem names_of_comma (h : WritesNames names t) (hn : ∃ n ∈ names, ',' ∈ n) :
    ∃ part, Join.names refuse t = .error (refuse part) := by
  have first {name b t v : Text} (hb : b.Blank) (h : Name.Writes name t) (hname : ',' ∈ name) :
      ∃ part, Join.names refuse (b ++ (t ++ v)) = .error (refuse part) := by
    obtain ⟨part, rest, htext, hpart, herror⟩ := partName_unclosed refuse (v := v) hb h hname
    rw [htext, names_eq, splitCommas_comma hpart, List.mapM_cons, herror]
    exact ⟨_, rfl⟩
  induction h with
  | last hb h hb' =>
    obtain ⟨n, hm, hc⟩ := hn
    exact first hb h (List.mem_singleton.1 hm ▸ hc)
  | @more name b t b' u names hb h hb' hs ih =>
    by_cases hname : ',' ∈ name
    · have hfirst := first (v := b' ++ ',' :: u) hb h hname
      simpa using hfirst
    · obtain ⟨n, hm, hc⟩ := hn
      rcases List.mem_cons.1 hm with rfl | hm
      · exact absurd hc hname
      · obtain ⟨part, hrest⟩ := ih ⟨n, hm, hc⟩
        rw [names_eq] at hrest ⊢
        rw [splitCommas_comma (ne_comma_of_padded hb h hb' hname), List.mapM_cons,
          partName_padded refuse hb h hb', hrest]
        exact ⟨part, rfl⟩

end

def columnsText (merge : Bool) (list : Text) : Text :=
  '[' :: ((if merge then ':' :: list else list) ++ [']'])

def columnsBracket (merge : Bool) (names : List Text) : Bracket :=
  if merge then .merged names else .equal none names

def columnRefusal (merge : Bool) : Text → Error := if merge then .usingColumn else .join

theorem enclosed_columnsText (merge : Bool) (h : WritesNames names t) :
    Enclosed (columnsText merge t) := by
  have hcolon : Balanced '[' ']' [':'] := balanced_char (by decide) (by decide) (by decide)
  cases merge with
  | false => exact .brackets h.balanced
  | true => exact .brackets (hcolon.append h.balanced)

/-- The names in backticks are no override, whatever colons are in them. -/
theorem override?_list {s r : Text} (h : Name.Writes name s) (hr : Name.Stops r)
    (hcolon : (Text.trimStart r).head? ≠ some ':') : override? (s ++ r) = none := by
  rw [override?, Name.read?_writes true h hr]
  cases hstart : Text.trimStart r with
  | nil => simp only [hstart]
  | cons c u =>
    rw [hstart] at hcolon
    have hc : c ≠ ':' := by simpa using hcolon
    simp only [hstart]
    split
    · next heq => exact absurd (List.cons.inj heq).1 hc
    · rfl

theorem Bracket.read_columns (merge : Bool) (h : WritesNames names t) :
    ∃ u, WritesNames names u ∧
      Bracket.read (columnsText merge t) = (Join.names (columnRefusal merge) u).map
        (columnsBracket merge) := by
  cases merge with
  | true =>
    refine ⟨t.trimEnd, h.trimEnd, ?_⟩
    have htrim : Text.trim (':' :: t) = ':' :: t.trimEnd := Text.trim_cons (by decide)
    rw [columnsText, if_pos rfl, Bracket.read, List.tail_cons, List.dropLast_concat, htrim]
    rfl
  | false =>
    obtain ⟨name, s, r, hname, htrim, hlist, hstops, hcolon⟩ := h.trim
    have hover := override?_list hname hstops hcolon
    obtain ⟨c, v, rfl, -, -⟩ := hname.solid.head
    have hc : c ≠ '?' ∧ c ≠ ':' := by
      cases hname with
      | bare hword =>
        obtain ⟨d, w, heq, hd, -⟩ := hword
        obtain ⟨rfl, -⟩ := List.cons.inj heq
        exact ne_sign_of_isStart hd
      | quoted => exact ⟨by decide, by decide⟩
    refine ⟨_, hlist, ?_⟩
    rw [List.cons_append] at htrim hover ⊢
    rw [columnsText, if_neg (by decide), Bracket.read_plain hc htrim, hover]
    rfl

/-- What comes of a list: a comma in a name ends the part that the name begins. -/
theorem Bracket.read_list (merge : Bool) (h : WritesNames names t) :
    ((∀ n ∈ names, ',' ∉ n) →
      Bracket.read (columnsText merge t) = .ok (columnsBracket merge names)) ∧
      ((∃ n ∈ names, ',' ∈ n) →
        ∃ part, Bracket.read (columnsText merge t) = .error (columnRefusal merge part)) := by
  obtain ⟨u, hu, hread⟩ := Bracket.read_columns merge h
  constructor
  · intro hn
    rw [hread, names_of_list (columnRefusal merge) hu hn]
    rfl
  · intro hn
    obtain ⟨part, hpart⟩ := names_of_comma (columnRefusal merge) hu hn
    exact ⟨part, by rw [hread, hpart]; rfl⟩

/-- A join as it is written around one of its steps, which is not the first of its sequence and may
be in parentheses: with `item` for the step and its operator, the text is that of `fill` of the
step. -/
inductive WritesAround (item : Text) : (fill : Step → List Step) → Text → Prop where
  | level {steps rest : List Step} {t u : Text} (h : WritesSteps steps t) (hr : WritesRest rest u) :
      WritesAround item (fun s => steps ++ s :: rest) (t ++ (item ++ u))
  | first {fill : Step → List Step} {rest : List Step} {t u : Text} (h : WritesAround item fill t)
      (hr : WritesRest rest u) :
      WritesAround item (fun s => .mk none (.group (fill s)) none :: rest)
        ('(' :: (t ++ [')']) ++ u)
  | joined {kind : Kind} {bracket : Option Bracket} {fill : Step → List Step}
      {steps rest : List Step}
      {t u v w : Text} (hs : WritesSteps steps t) (h : WritesAround item fill u)
      (hb : WritesBracket bracket w)
      (hk : bracket = none ↔ kind = .cross) (hr : WritesRest rest v) :
      WritesAround item (fun s => steps ++ .mk (some kind) (.group (fill s)) bracket :: rest)
        (t ++ (kind.symbol ++ ('(' :: (u ++ [')']) ++ w ++ v)))

variable {setting : Setting} {kind : Kind} {source : Source} {steps rest : List Step}
  {fill : Step → List Step} {item : Text}

theorem WritesRest.extends_append : ∀ {rest : List Step} {t : Text}, WritesRest rest t →
    ∀ {v : Text} {ss : Except Error (List Step)}, ExtendsSteps setting v ss →
      ExtendsSteps setting (t ++ v) (ss.map (rest ++ ·))
  | _, _, .nil, v, ss, hv => by
    cases ss <;> exact hv
  | _, _, @WritesRest.more kind source bracket _ t w _ h hb hk hr, v, ss, hv => by
    have hstep :
        YieldsItem setting (some kind.symbol) (t ++ w) (.ok (.mk (some kind) source bracket)) :=
      h.yields hb.isEnclosed (hb.reads (placed_joined _ hk))
    obtain ⟨c, r, ht, hc⟩ := h.head
    have hjoined := hstep.joined ⟨c, _, by rw [ht]; rfl, hc⟩ (hr.extends_append hv)
    simp only [List.append_assoc] at hjoined ⊢
    cases ss <;> exact hjoined

theorem WritesSteps.yields_append (h : WritesSteps steps t) {v : Text}
    {ss : Except Error (List Step)} (hv : ExtendsSteps setting v ss) :
    YieldsSteps setting (t ++ v) (ss.map (steps ++ ·)) := by
  cases h with
  | mk h hr =>
    have hfirst : YieldsItem setting none (_ ++ []) (.ok (.mk none _ none)) :=
      h.yields .nothing (WritesBracket.nothing.reads placed_first)
    rw [List.append_nil] at hfirst
    have hsteps := hfirst.first (hr.extends_append hv)
    rw [← List.append_assoc] at hsteps
    cases ss <;> exact hsteps

/-- The outcome of one step is that of the whole join. -/
theorem WritesAround.yields {r : Except Error Step}
    (hitem : YieldsItem setting (some kind.symbol) u r)
    (hhead : ∃ c v, u = c :: v ∧ c ∉ ['=', '<', '>']) (h : WritesAround (kind.symbol ++ u) fill t) :
    YieldsSteps setting t (r.map fill) := by
  induction h with
  | level h hr =>
    have hmore := h.yields_append (hitem.joined hhead hr.extends)
    rw [← List.append_assoc kind.symbol] at hmore
    cases r <;> exact hmore
  | first h hr ih =>
    have hgroup := yieldsItem_group ih .nothing (WritesBracket.nothing.reads placed_first)
    rw [List.append_nil] at hgroup
    have hsteps := hgroup.first hr.extends
    cases r <;> exact hsteps
  | joined hs h hb hk hr ih =>
    have hgroup := yieldsItem_group ih hb.isEnclosed (hb.reads (placed_joined _ hk))
    have hmore := hs.yields_append (hgroup.joined ⟨'(', _, rfl, by decide⟩ hr.extends)
    cases r <;> exact hmore

theorem ne_nil_of_writes (h : Name.Writes name t) : name ≠ [] := by
  cases h with
  | bare h =>
    obtain ⟨c, r, rfl, -⟩ := h
    exact List.cons_ne_nil c r
  | quoted h => exact h

mutual

theorem Source.Writes.reference (target : Target) :
    ∀ {source : Source} {t : Text}, source.Writes t →
    ∃ name, source.reference target = .ok name
  | _, _, .table h => ⟨_, tableName_ok (ne_nil_of_writes h) target⟩
  | _, _, .aliased _ _ => ⟨_, rfl⟩
  | _, _, .group h => h.reference target

theorem WritesSteps.reference (target : Target) :
    ∀ {steps : List Step} {t : Text}, WritesSteps steps t →
    ∃ name, referenceOfFirst target steps = .ok name
  | _, _, .mk h _ => h.reference target

end

def columnsSql (merge : Bool) (ctx : Context) (first right : Text) (names : List Text) : Text :=
  if merge then " USING (".toList ++ Text.joined ", ".toList (names.map ctx.quoteName) ++ [')']
  else " ON ".toList ++ Text.joined " AND ".toList (names.map fun n =>
    first ++ '.' :: (ctx.quoteName n ++ " = ".toList ++ right ++ '.' :: ctx.quoteName n))

theorem bracketSql_columns (merge : Bool) (ctx : Context) (first right : Text)
    (h : source.reference ctx.target = .ok right) :
    bracketSql ctx first source (columnsBracket merge names) =
      .ok (columnsSql merge ctx first right names) := by
  cases merge with
  | true => rfl
  | false =>
    simp only [columnsBracket, Bool.false_eq_true, if_false, bracketSql, h, bind, Except.bind]
    rfl

theorem yieldsItem_columns (merge : Bool) (hs : source.Writes u) (hn : WritesNames names t)
    {result : Except Error Bracket} (hread : Bracket.read (columnsText merge t) = result)
    (hk : kind ≠ .cross) :
    YieldsItem setting (some kind.symbol) (u ++ columnsText merge t)
      (result.map fun b => .mk (some kind) source (some b)) := by
  have hreads : ReadsBracket (some kind.symbol) (columnsText merge t) fun source =>
      result.map fun b => .mk (some kind) source (some b) := by
    intro source written
    have hplaced (b : Bracket) : Placed (some kind.symbol) (some kind) (some b) :=
      placed_joined kind (by simp [hk])
    have hkind : (some kind.symbol).bind Kind.ofSymbol? = some kind := Kind.ofSymbol?_symbol kind
    rw [hkind, if_neg (by simp [columnsText]), step, hread]
    cases result with
    | error e => rfl
    | ok b => exact (hplaced b).allowed written source
  exact hs.yields (enclosed_columnsText merge hn) hreads

/-- A list that a statement takes for column names is taken by a bracket as well, in any join that
can be written, unless there is a comma in one of the names: there the bracket is cut, though in
backticks. -/
theorem read_of_columns (setting : Setting) (merge : Bool) (hn : WritesNames names t)
    (hs : source.Writes u) (hk : kind ≠ .cross) {text : Text}
    (h : WritesAround (kind.symbol ++ (u ++ columnsText merge t)) fill text) :
    ((∀ n ∈ names, Statement.IsColumn n) → Statement.columnNames t = .ok names) ∧
    ((∀ n ∈ names, ',' ∉ n) →
      Join.read setting text = .ok {
        source := text
        steps := fill (.mk (some kind) source (some (columnsBracket merge names))) } ∧
      ∀ ctx first, ∃ right, source.reference ctx.target = .ok right ∧
        bracketSql ctx first source (columnsBracket merge names) =
          .ok (columnsSql merge ctx first right names)) ∧
    ((∃ n ∈ names, ',' ∈ n) →
      ∃ part, Join.read setting text = .error (columnRefusal merge part)) := by
  obtain ⟨hplain, hcomma⟩ := Bracket.read_list merge hn
  have hhead : ∃ c v, u ++ columnsText merge t = c :: v ∧ c ∉ ['=', '<', '>'] := by
    obtain ⟨c, r, rfl, hc⟩ := hs.head
    exact ⟨c, _, rfl, hc⟩
  have outcome {result : Except Error Bracket}
      (hread : Bracket.read (columnsText merge t) = result) :
      Join.read setting text =
        ((result.map fun b => Step.mk (some kind) source (some b)).map fill).map
        fun steps => { source := text, steps } :=
    (h.yields (yieldsItem_columns merge hs hn hread hk) hhead).read
  refine ⟨Statement.columnNames_of_writes hn, fun hnames =>
    ⟨?_, fun ctx first => ?_⟩, fun hnames => ?_⟩
  · exact outcome (hplain hnames)
  · obtain ⟨right, hright⟩ := hs.reference ctx.target
    exact ⟨right, hright, bracketSql_columns merge ctx first right hright⟩
  · obtain ⟨part, hpart⟩ := hcomma hnames
    exact ⟨part, outcome hpart⟩

/-- In parentheses, with a colon and a bracket in one of the names. -/
theorem read_of_columns_quoted : ∃ steps : List Step,
    Join.read ⟨{}, .empty⟩ "(t-u[:\x60x]:y\x60, z ])".toList =
      .ok { source := "(t-u[:\x60x]:y\x60, z ])".toList, steps } ∧
    stepsSql { source := [], steps } {} steps =
      .ok "(\x60t\x60 JOIN \x60u\x60 USING (\x60x]:y\x60, \x60z\x60))".toList := by
  have word (c : Char) (hc : Name.isStart c = true) : Name.Writes [c] [c] :=
    .bare ⟨c, [], rfl, hc, by simp⟩
  have hn : WritesNames ["x]:y".toList, ['z']] ([] ++ (Text.quoted backtick "x]:y".toList ++ []) ++
      ',' :: ([' '] ++ (['z'] ++ [' ']))) :=
    .more Text.blank_nil (.quoted (by decide)) Text.blank_nil
      (.last (Text.forall_mem_of_all (by decide)) (word 'z' (by decide))
        (Text.forall_mem_of_all (by decide)))
  have hs : Source.Writes (.table ['u'] none) ['u'] := .table (word 'u' (by decide))
  have first : WritesSteps [.mk none (.table ['t'] none) none] (['t'] ++ []) :=
    .mk (.table (word 't' (by decide))) .nil
  have around (list : Text) :
      WritesAround (Kind.inner.symbol ++ (['u'] ++ columnsText true list)) _ _ :=
    .first (.level first .nil) .nil
  obtain ⟨-, hplain, -⟩ := read_of_columns ⟨{}, .empty⟩ true hn hs (by decide) (around _)
  obtain ⟨hread, -⟩ := hplain (by decide)
  exact ⟨_, hread, eq_ok_of_toOption (by decide +kernel)⟩

/-- The list of one name that a statement takes and a bracket does not. -/
theorem read_of_columns_cut :
    Statement.columnNames "\x60x,y\x60".toList = .ok ["x,y".toList] ∧
    (Join.read ⟨{}, .empty⟩ "a.t-b.u[\x60x,y\x60]".toList).isOk = false ∧
    (Join.read ⟨{}, .empty⟩ "a.t-b.u[:\x60x,y\x60]".toList).isOk = false := by
  refine ⟨eq_ok_of_toOption ?_, ?_, ?_⟩
  · decide +kernel
  · decide +kernel
  · decide +kernel

end Join

end QueryShorthand
