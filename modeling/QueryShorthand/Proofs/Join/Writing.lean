import QueryShorthand.Proofs.Condition.Writing
import QueryShorthand.Proofs.Join.Bracket
import QueryShorthand.Proofs.Join.Reading
import QueryShorthand.Proofs.Token.Yield
import QueryShorthand.Statement.Names

/-! The grammar of joins, nested to any depth. A condition in a bracket compiles as it does on its
own. -/
namespace QueryShorthand.Join

inductive WritesBracket : Option Bracket → Text → Prop where
  | nothing : WritesBracket none []
  | enclosed {b : Bracket} {t : Text} (h : b.Writes t) :
      WritesBracket (some b) ('[' :: (t ++ [']']))

mutual

/-- A table, with its alias in front, or a sequence in parentheses. -/
inductive Source.Writes : Source → Text → Prop where
  | table {name t : Text} (h : Name.Writes name t) : Source.Writes (.table name none) t
  | aliased {tableAlias name s t : Text} (ha : Name.Writes tableAlias s) (h : Name.Writes name t) :
      Source.Writes (.table name (some tableAlias)) (s ++ '.' :: t)
  | group {steps : List Step} {t : Text} (h : WritesSteps steps t) :
      Source.Writes (.group steps) ('(' :: (t ++ [')']))

inductive WritesSteps : List Step → Text → Prop where
  | mk {source : Source} {rest : List Step} {t u : Text} (h : source.Writes t)
      (hr : WritesRest rest u) : WritesSteps (.mk none source none :: rest) (t ++ u)

/-- Steps that are joined to one before them; all but cross joined ones have a bracket. -/
inductive WritesRest : List Step → Text → Prop where
  | nil : WritesRest [] []
  | more {kind : Kind} {source : Source} {bracket : Option Bracket} {rest : List Step}
      {t w u : Text} (h : source.Writes t) (hb : WritesBracket bracket w)
      (hk : bracket = none ↔ kind = .cross) (hr : WritesRest rest u) :
      WritesRest (.mk (some kind) source bracket :: rest) (kind.symbol ++ (t ++ w ++ u))

end

def cutter : Cutter := .delimiters Kind.symbols

theorem marks_cutter :
    cutter.marks = ["<<".toList, ">>".toList, ['-'], ['<'], ['>'], ['*']] := by decide

theorem startsIn_cutter : cutter.StartsIn specials := by
  rw [Cutter.StartsIn, marks_cutter]
  decide

theorem groups_cutter : cutter.groups = true := rfl

variable {c : Char} {name s t u w rest : Text} {word : Bool} {source : Source}
  {bracket : Option Bracket}

theorem mark?_symbol (kind : Kind) (h : ∀ c ∈ ['=', '<', '>'], rest.head? ≠ some c) :
    cutter.mark? (kind.symbol ++ rest) = some (kind.symbol, rest) := by
  have heq : rest.head? ≠ some '=' := h '=' (by decide)
  have hlt : rest.head? ≠ some '<' := h '<' (by decide)
  have hgt : rest.head? ≠ some '>' := h '>' (by decide)
  cases rest with
  | nil =>
    cases kind <;>
      simp [Cutter.mark?, marks_cutter, Kind.symbol, firstMark, Text.after?, groups_cutter]
  | cons c rest =>
    have heq : '=' ≠ c := fun hc => heq (by rw [hc]; rfl)
    have hlt : '<' ≠ c := fun hc => hlt (by rw [hc]; rfl)
    have hgt : '>' ≠ c := fun hc => hgt (by rw [hc]; rfl)
    cases kind <;>
      simp [Cutter.mark?, marks_cutter, Kind.symbol, firstMark, Text.after?, groups_cutter,
        heq.symm, hlt, hgt]

/-- No symbol begins a span, unless an arrow is made of it. -/
theorem span?_symbol {m : Text} {kind : Kind} (hs : kind.symbol = c :: m)
    (h : rest.head? ≠ some '>') : span? word c (m ++ rest) = .ok none := by
  cases kind with
  | inner =>
    obtain ⟨rfl, rfl⟩ : '-' = c ∧ [] = m := List.cons.inj hs
    rw [span?, if_neg (by decide), if_neg (by decide), if_neg (by simp), List.nil_append,
      arrow?_hyphen h]
  | _ =>
    cases hs
    exact span?_of_not_startsSpan (by decide)

theorem inside_name (h : Name.Writes name t) : cutter.Inside word t := by
  cases h with
  | bare h =>
    exact Cutter.inside_chars startsIn_cutter fun c hc =>
      not_special_of_isWordChar (h.isWordChar c hc)
  | quoted h => exact Cutter.inside_quoted rfl (quotes_escape name)

theorem inside_aliased (hs : Name.Writes name s) (ht : cutter.Inside (endsWord '.') t) :
    cutter.Inside word (s ++ '.' :: t) := by
  have hdot : cutter.Inside (wordAfter word s) ['.'] :=
    Cutter.inside_char startsIn_cutter (by decide)
  exact (inside_name hs).append (hdot.append ht)

/-- Square brackets with whatever is balanced between them, or nothing. -/
inductive Enclosed : Text → Prop where
  | nothing : Enclosed []
  | brackets {t : Text} (h : Balanced '[' ']' t) : Enclosed ('[' :: (t ++ [']']))

namespace Enclosed

theorem inside (h : Enclosed w) : cutter.Inside word w := by
  cases h with
  | nothing => exact .nil
  | brackets h => exact Cutter.inside_bracketed h

theorem head (h : Enclosed w) (hc : w.head? = some c) : c = '[' := by
  cases h with
  | nothing => cases hc
  | brackets h => exact (Option.some.inj hc).symm

theorem last (h : Enclosed w) (hw : w ≠ []) : w.getLast? = some ']' := by
  cases h with
  | nothing => exact absurd rfl hw
  | brackets h => simp [List.getLast?_cons]

theorem stops (h : Enclosed w) : Name.Stops w := by
  intro c hc
  rw [h.head hc]
  decide

theorem trim (h : Enclosed w) : w.trim = w := by
  cases h with
  | nothing => rfl
  | brackets h =>
    have hclose : isBlank ']' = false := by decide
    exact Text.trim_of_ends rfl (by decide) (by simp [List.getLast?_cons]) hclose

theorem trim_append (h : Enclosed w) (ht : Solid t) : (t ++ w).trim = t ++ w := by
  obtain ⟨c, r, rfl, hc, -⟩ := ht.head
  by_cases hw : w = []
  · rw [hw, List.append_nil, ht.trim]
  · have hclose : isBlank ']' = false := by decide
    exact Text.trim_of_ends rfl hc (by rw [List.getLast?_append, h.last hw]; rfl) hclose

theorem inBrackets (h : Enclosed w) (hw : w ≠ []) : Leaf.inBrackets w = true := by
  have hlast := h.last hw
  cases h with
  | nothing => exact absurd rfl hw
  | brackets h => simp [Leaf.inBrackets, hlast]

theorem bracket? (h : Enclosed w) : Leaf.bracket? w = some (if w = [] then none else some w) := by
  by_cases hnil : w = []
  · rw [Leaf.bracket?, if_pos hnil, if_pos hnil]
  · rw [Leaf.bracket?, if_neg hnil, if_neg hnil, if_pos (h.inBrackets hnil)]

theorem preset? (h : Enclosed w) : Leaf.preset? w = none := by
  cases h with
  | nothing => rfl
  | brackets h => rfl

end Enclosed

theorem WritesBracket.isEnclosed (h : WritesBracket bracket w) : Enclosed w := by
  cases h with
  | nothing => exact .nothing
  | enclosed h => exact .brackets h.balanced

theorem WritesBracket.step (h : WritesBracket bracket w) (kind : Option Kind) (source : Source) :
    Join.step kind source (if w = [] then none else some w) = .ok (.mk kind source bracket) := by
  cases h with
  | nothing => rfl
  | enclosed h =>
    rw [if_neg (by simp), Join.step, h.read]
    rfl

/-- What a table is split into, with anything behind it. -/
theorem Leaf.read?_source {tableAlias : Option Text} {r : Text} (hr : Name.Stops r)
    (hdot : r.head? ≠ some '.') (h : Source.Writes (.table name tableAlias) t) :
    Leaf.read? (t ++ r) =
      (Leaf.bracket? ((Leaf.preset? r).elim r Prod.snd)).map fun b =>
        ⟨tableAlias, name, (Leaf.preset? r).map Prod.fst, b⟩ := by
  cases h with
  | table h =>
    have hname := Name.read?_writes true h hr
    generalize t ++ r = v at hname
    rw [Leaf.read?, hname]
    cases r with
    | nil => simp [hname, Leaf.preset?, Leaf.bracket?]
    | cons c r =>
      have hc : c ≠ '.' := by simpa using hdot
      cases hp : Leaf.preset? (c :: r) with
      | none => cases hb : Leaf.bracket? (c :: r) <;> simp [hname, hc, hp, hb]
      | some p => cases hb : Leaf.bracket? p.2 <;> simp [hname, hc, hp, hb]
  | @aliased a _ s t ha h =>
    have hname := Name.read?_writes true h hr
    have halias : Name.read? true (s ++ '.' :: t ++ r) = some (a, '.' :: (t ++ r)) := by
      rw [List.append_assoc]
      exact Name.read?_writes true ha (stops_of_head (by decide))
    rw [Leaf.read?, halias]
    simp only [hname, Option.bind_eq_bind, Option.bind_some]
    cases Leaf.preset? r with
    | none => cases hb : Leaf.bracket? r <;> simp [hb]
    | some p => cases hb : Leaf.bracket? p.2 <;> simp [hb]

theorem Leaf.read?_table {tableAlias : Option Text} (hw : Enclosed w)
    (h : Source.Writes (.table name tableAlias) t) :
    Leaf.read? (t ++ w) = some ⟨tableAlias, name, none, if w = [] then none else some w⟩ := by
  have hdot : w.head? ≠ some '.' := fun hc => absurd (hw.head hc) (by decide)
  rw [Leaf.read?_source hw.stops hdot h, hw.preset?, Option.elim_none, hw.bracket?]
  rfl

theorem solid_table {tableAlias : Option Text} (h : Source.Writes (.table name tableAlias) t) :
    Solid t := by
  cases h with
  | table h => exact h.solid
  | aliased ha h => exact ha.solid.dotted h.solid

theorem inside_table {tableAlias : Option Text} (h : Source.Writes (.table name tableAlias) t) :
    cutter.Inside word t := by
  cases h with
  | table h => exact inside_name h
  | aliased ha h => exact inside_aliased ha (inside_name h)

theorem Source.Writes.head (h : source.Writes t) :
    ∃ c r, t = c :: r ∧ c ∉ ['=', '<', '>'] := by
  have of_solid {t : Text} (hs : Solid t) : ∃ c r, t = c :: r ∧ c ∉ ['=', '<', '>'] := by
    obtain ⟨c, r, rfl, -, hc⟩ := hs.head
    exact ⟨c, r, rfl, fun hm => hc (List.mem_cons_of_mem _ hm)⟩
  cases h with
  | group h => exact ⟨'(', _, rfl, by decide⟩
  | table h => exact of_solid (solid_table (.table h))
  | aliased ha h => exact of_solid (solid_table (.aliased ha h))

variable {setting : Setting} {before : Option Text} {kind : Option Kind} {steps : List Step}
  {s : Step}

def Accepted (tokens : List Token) : Prop := ∀ x ∈ Token.leavesAll tokens, checkLeaf x = .ok x

theorem Accepted.append {xs ys : List Token} (hx : Accepted xs) (hy : Accepted ys) :
    Accepted (xs ++ ys) := by
  intro x hm
  rw [Token.leavesAll_append] at hm
  exact (List.mem_append.1 hm).elim (hx x) (hy x)

structure Placed (before : Option Text) (kind : Option Kind) (bracket : Option Bracket) : Prop where
  operator : before.bind Kind.ofSymbol? = kind
  allowed : ∀ written source,
    placed before.isNone written (.mk kind source bracket) = .ok (.mk kind source bracket)

theorem placed_first : Placed none none none := ⟨rfl, fun _ _ => rfl⟩

theorem placed_joined (kind : Kind) (h : bracket = none ↔ kind = .cross) :
    Placed (some kind.symbol) (some kind) bracket := by
  refine ⟨Kind.ofSymbol?_symbol kind, fun written source => ?_⟩
  cases bracket with
  | none =>
    obtain rfl := h.1 rfl
    rfl
  | some b =>
    cases kind with
    | cross => cases h.2 rfl
    | _ => rfl

/-- With the bracket behind it, a source is read as `r` makes of it; `written` is what an error
names. -/
def ReadsBracket (before : Option Text) (w : Text) (r : Source → Except Error Step) : Prop :=
  ∀ source written, (do
    let s ← step (before.bind Kind.ofSymbol?) source (if w = [] then none else some w)
    placed before.isNone written s) = r source

theorem WritesBracket.reads (h : WritesBracket bracket w) (hp : Placed before kind bracket) :
    ReadsBracket before w fun source => .ok (.mk kind source bracket) := by
  intro source written
  rw [hp.operator, h.step]
  exact hp.allowed written source

/-- The text is one token, and behind the operator it is read as `item`. -/
def YieldsItem (setting : Setting) (before : Option Text) (t : Text) (item : Except Error Step) :
    Prop :=
  ∃ token, cutter.Yields t [token] ∧ Accepted [token] ∧
    ∃ read, slot setting token = .item read ∧ read before = (liftM item : Reading Step)

def YieldsSteps (setting : Setting) (t : Text) (steps : Except Error (List Step)) : Prop :=
  ∃ tokens, tokens ≠ [] ∧ cutter.Yields t tokens ∧ Accepted tokens ∧
    Slot.itemsAfter none (slots setting tokens) = (liftM steps : Reading (List Step))

def ExtendsSteps (setting : Setting) (t : Text) (rest : Except Error (List Step)) : Prop :=
  ∃ tokens, cutter.Extends t tokens ∧ Accepted tokens ∧
    ∀ (before : Option Text) (read : Option Text → Reading Step) (item : Except Error Step),
      read before = (liftM item : Reading Step) →
      Slot.itemsAfter before (.item read :: slots setting tokens) =
        (liftM (item >>= fun s => rest >>= fun ss => pure (s :: ss)) : Reading (List Step))

variable {item : Except Error Step} {result : Except Error (List Step)}
  {r : Source → Except Error Step}

theorem liftM_bind {α β : Type} (x : Except Error α) (f : α → Except Error β) :
    (liftM (x >>= f) : Reading β) = liftM x >>= fun a => liftM (f a) := by
  cases x <;> rfl

theorem yieldsItem_table {tableAlias : Option Text} (h : Source.Writes (.table name tableAlias) t)
    (hw : Enclosed w) (hb : ReadsBracket before w r) :
    YieldsItem setting before (t ++ w) (r (.table name tableAlias)) := by
  have hread := Leaf.read?_table hw h
  have hne : t ++ w ≠ [] := by simp [(solid_table h).ne_nil]
  refine ⟨.leaf (t ++ w), ?_, ?_, _, rfl, ?_⟩
  · exact Cutter.yields_leaf ((inside_table h).append hw.inside) (hw.trim_append (solid_table h))
      hne
  · intro x hx
    obtain rfl : x = t ++ w := by simpa [Token.leavesAll, Token.leaves] using hx
    rw [checkLeaf, hread]
    rfl
  · rw [← hb _ (t ++ w), liftM_bind]
    simp only [ofLeaf, hread, leafSource, pure_bind]

theorem yieldsItem_group (h : YieldsSteps setting t result) (hw : Enclosed w)
    (hb : ReadsBracket before w r) :
    YieldsItem setting before ('(' :: (t ++ [')']) ++ w)
      (result >>= fun steps => r (.group steps)) := by
  obtain ⟨tokens, -, hy, hleaves, hitems⟩ := h
  refine ⟨.group [] tokens w, hy.group groups_cutter hw.inside hw.trim, ?_, _, rfl, ?_⟩
  · simpa [Accepted, Token.leavesAll, Token.leaves] using hleaves
  · have htail : ¬ (w ≠ [] ∧ (!Leaf.inBrackets w) = true) := by
      rintro ⟨hne, hw'⟩
      simp [hw.inBrackets hne] at hw'
    have hgroup (kind : Option Kind) (written : Text) :
        ofGroup kind written [] w (slots setting tokens) =
        liftM
          (result >>= fun steps => step kind (.group steps) (if w = [] then none else some w)) := by
      rw [ofGroup, if_neg (by simpa using htail), hitems, liftM_bind]
    simp only [hgroup]
    rw [← liftM_bind, bind_assoc]
    congr 2
    funext steps
    exact hb _ _

theorem YieldsItem.first (h : YieldsItem setting none t item) (hr : ExtendsSteps setting u result) :
    YieldsSteps setting (t ++ u) (item >>= fun s => result >>= fun ss => pure (s :: ss)) := by
  obtain ⟨token, hy, hleaves, read, hslot, hread⟩ := h
  obtain ⟨tokens, hyr, hleaves', hitems⟩ := hr
  refine ⟨[token] ++ tokens, by simp, hy.append hyr, hleaves.append hleaves', ?_⟩
  rw [List.singleton_append, slots, hslot]
  exact hitems none read item hread

theorem extendsSteps_nil : ExtendsSteps setting [] (.ok []) := by
  refine ⟨[], Cutter.extends_nil, by simp [Accepted, Token.leavesAll], fun before read item h => ?_⟩
  rw [slots, Slot.itemsAfter, h, liftM_bind]
  rfl

theorem YieldsItem.joined {kind : Kind} (h : YieldsItem setting (some kind.symbol) t item)
    (hhead : ∃ c r, t = c :: r ∧ c ∉ ['=', '<', '>']) (hr : ExtendsSteps setting u result) :
    ExtendsSteps setting (kind.symbol ++ (t ++ u))
      (item >>= fun s => result >>= fun ss => pure (s :: ss)) := by
  obtain ⟨token, hy, hleaves, read, hslot, hread⟩ := h
  obtain ⟨tokens, hyr, hleaves', hitems⟩ := hr
  obtain ⟨c, m, hs, hgroup⟩ : ∃ c m, kind.symbol = c :: m ∧ c ≠ '(' ∧ c ≠ ')' := by
    cases kind <;> exact ⟨_, _, rfl, by decide⟩
  have hnext (v : Text) : ∀ c ∈ ['=', '<', '>'], (t ++ u ++ v).head? ≠ some c := by
    obtain ⟨d, r, rfl, hd⟩ := hhead
    rintro c hc heq
    cases heq
    exact hd hc
  have hbehind :
      cutter.Extends (c :: (m ++ (t ++ u))) (.combinator (c :: m) :: ([token] ++ tokens)) := by
    refine (hy.append hyr).behind (fun word => by simp [Cutter.Groups, hgroup])
      (fun word v => span?_symbol hs (hnext v _ (by simp))) fun v => ?_
    have hmark := mark?_symbol kind (hnext v)
    rwa [hs] at hmark
  refine ⟨_, by rw [hs]; exact hbehind, ?_, fun before read' item' h' => ?_⟩
  · have hrest := hleaves.append hleaves'
    simpa [Accepted, Token.leavesAll, Token.leaves] using hrest
  · rw [slots, slot, List.singleton_append, slots, hslot, Slot.itemsAfter, h', liftM_bind]
    simp only [← hs, hitems _ read item hread]
    congr 1
    funext s
    exact (liftM_bind (item >>= fun s => result >>= fun ss => pure (s :: ss)) fun ss =>
      pure (s :: ss)).symm

-- By induction on how the join was written: a group is one token whatever stands in it, so only its
-- own steps and the bracket behind it are left to compare.
mutual

theorem Source.Writes.yields : ∀ {source : Source} {t : Text}, source.Writes t →
    ∀ {before : Option Text} {w : Text} {r : Source → Except Error Step}, Enclosed w →
      ReadsBracket before w r →
      YieldsItem setting before (t ++ w) (r source)
  | _, _, .table h, _, _, _, hw, hb => yieldsItem_table (.table h) hw hb
  | _, _, .aliased ha h, _, _, _, hw, hb => yieldsItem_table (.aliased ha h) hw hb
  | _, _, .group h, _, _, _, hw, hb => yieldsItem_group h.yields hw hb

theorem WritesSteps.yields : ∀ {steps : List Step} {t : Text}, WritesSteps steps t →
    YieldsSteps setting t (.ok steps)
  | _, _, .mk h hr => by
    have hfirst := h.yields .nothing (WritesBracket.nothing.reads placed_first)
    rw [List.append_nil] at hfirst
    exact hfirst.first hr.extends

theorem WritesRest.extends : ∀ {rest : List Step} {t : Text}, WritesRest rest t →
    ExtendsSteps setting t (.ok rest)
  | _, _, .nil => extendsSteps_nil
  | _, _, .more h hb hk hr => by
    have hstep := h.yields hb.isEnclosed (hb.reads (placed_joined _ hk))
    obtain ⟨c, r, ht, hc⟩ := h.head
    exact hstep.joined ⟨c, _, by rw [ht]; rfl, hc⟩ hr.extends

end

theorem YieldsSteps.read {steps : Except Error (List Step)} (h : YieldsSteps setting t steps) :
    Join.read setting t = steps.map fun steps => { source := t, steps } := by
  obtain ⟨tokens, hne, hy, hleaves, hitems⟩ := h
  have hscan : cutter.Scans [{}] false (t ++ []) tokens :=
    hy [] [] [] tokens fun level word hl => by
      obtain rfl : level.complete = tokens := hl
      exact .done
  rw [List.append_nil] at hscan
  have htokens : Token.readWith checkLeaf Kind.symbols t = .ok tokens :=
    Cutter.readWith_of_scans hscan hleaves
  obtain ⟨token, rest, rfl⟩ := List.exists_cons_of_ne_nil hne
  rw [Join.read, htokens]
  simp only [bind, Except.bind, hitems]
  cases steps <;> rfl

theorem source_of_read {source : Text} {c : Condition} (h : Condition.read source = .ok c) :
    c.source = source := by
  obtain ⟨tokens, -, h⟩ := exists_of_bind_eq_ok h
  obtain ⟨expr, -, h⟩ := exists_of_bind_eq_ok h
  cases h
  rfl

/-- The condition is what its own text is read as, and not empty. -/
def Standing (c : Condition) : Prop := Condition.read c.source = .ok c ∧ c.isEmpty = false

theorem WritesBracket.standing (h : WritesBracket bracket w) :
    ∀ c ∈ bracket.elim [] Bracket.conditions, Standing c := by
  cases h with
  | nothing => simp
  | enclosed h =>
    cases h with
    | condition h hne hend hs =>
      intro c hc
      obtain rfl := List.mem_singleton.1 hc
      exact ⟨by rw [source_of_read h, h], hne⟩
    | _ => simp [Bracket.conditions]

mutual

theorem Source.Writes.standing : ∀ {source : Source} {t : Text}, source.Writes t →
    ∀ c ∈ source.conditions, Standing c
  | _, _, .table _ => by simp [Source.conditions]
  | _, _, .aliased _ _ => by simp [Source.conditions]
  | _, _, .group h => by
    rw [Source.conditions]
    exact h.standing

theorem WritesSteps.standing : ∀ {steps : List Step} {t : Text}, WritesSteps steps t →
    ∀ c ∈ conditionsOf steps, Standing c
  | _, _, .mk h hr => by
    rw [conditionsOf]
    exact List.forall_mem_append.2 ⟨h.standing, by simpa using hr.standing⟩

theorem WritesRest.standing : ∀ {rest : List Step} {t : Text}, WritesRest rest t →
    ∀ c ∈ conditionsOf rest, Standing c
  | _, _, .nil => by simp [conditionsOf]
  | _, _, .more h hb _ hr => by
    rw [conditionsOf]
    exact List.forall_mem_append.2 ⟨h.standing, List.forall_mem_append.2 ⟨hb.standing, hr.standing⟩⟩

end

/-- A condition in a bracket compiles as in a clause of its own, also where it cannot be
compiled. -/
theorem bracketSql_condition {c : Condition} (h : c.isEmpty = false) (ctx : Context) (first : Text)
    (source : Source) : bracketSql ctx first source (.condition c) =
      (Statement.conditionSql ctx (some c)).map (Statement.clause "ON".toList) := by
  obtain ⟨text, expr⟩ := c
  cases expr with
  | none => cases h
  | some e =>
    have hsql : Condition.sql ctx ⟨text, some e⟩ = (e.sql ctx).map some := rfl
    rw [bracketSql, Statement.conditionSql, hsql]
    cases e.sql ctx with
    | error e => rfl
    | ok sql => rfl

/-- Reading undoes writing at every depth, whatever the target and the presets are. -/
theorem read_of_writesSteps (setting : Setting) (h : WritesSteps steps t) :
    Join.read setting t = .ok { source := t, steps } ∧
      ∀ c ∈ conditionsOf steps, Condition.read c.source = .ok c ∧
        ∀ ctx first source, bracketSql ctx first source (.condition c) =
          (Statement.conditionSql ctx (some c)).map (Statement.clause "ON".toList) := by
  constructor
  · exact (WritesSteps.yields h).read
  · intro c hc
    obtain ⟨hread, hne⟩ := h.standing c hc
    exact ⟨hread, bracketSql_condition hne⟩

theorem read_of_writesSteps_nested : ∃ (steps : List Step) (t : Text),
    t = "`a-b`<<(u.v*w)[?x|=[1]]>z[u:id,n]".toList ∧ WritesSteps steps t ∧
      (conditionsOf steps).map Condition.source = ["x|=[1]".toList] ∧
      Join.read ⟨{}, .empty⟩ t = .ok { source := t, steps } := by
  have word (c : Char) (hc : Name.isStart c = true) : Name.IsWord [c] := ⟨c, [], rfl, hc, by simp⟩
  have nothing : Text.Blank [] := Text.blank_nil
  have member : Expr.WritesAtom (.compare (.column { name := ['x'] }) .membership (.array [.int 1]))
      (['x'] ++ ([] ++ ("|=".toList ++ ([] ++ "[1]".toList)))) :=
    .compare (.column (.plain (.bare (word 'x' (by decide))) (by decide)) (by decide)) nothing
      nothing
      (.array (by simp [Json.Fits, Json.FitsAll] : Json.Fits 127 (.array [.number (.natural 1)])))
      rfl (by decide)
  have clip : Expr.WritesClip (Expr.negated 0 (.compare _ _ _)) ([] ++ (_ ++ [])) :=
    .mk rfl member nothing
  have hread : Condition.read "x|=[1]".toList = .ok ⟨"x|=[1]".toList, _⟩ := clip.items.read
  have hnests : Nests "x|=[1]".toList :=
    .atom rfl (by decide) (by decide)
      (.atom rfl (by decide) (by decide) (.atom rfl (by decide) (by decide)
      (.nested (s := ['1']) (t := []) (.atom rfl (by decide) (by decide) .nil) .nil)))
  have condition : WritesBracket (some (.condition _)) ('[' :: ('?' :: "x|=[1]".toList ++ [']'])) :=
    .enclosed (.condition hread rfl (by decide) hnests)
  have equal : WritesBracket (some (.equal (some ['u']) ["id".toList, ['n']]))
      ('[' :: (['u'] ++ ':' :: ("id".toList ++ ',' :: ['n']) ++ [']'])) :=
    .enclosed (.equalOf (word 'u' (by decide)) (.more ⟨'i', ['d'], rfl, by decide, by simp; decide⟩
      (.last (word 'n' (by decide)))))
  have joined (kind : Kind) {source : Source} {bracket : Option Bracket} {rest : List Step}
      {t w u : Text}
      (h : source.Writes t) (hb : WritesBracket bracket w) (hk : bracket = none ↔ kind = .cross)
      (hr : WritesRest rest u) : WritesRest (.mk kind source bracket :: rest) _ := .more h hb hk hr
  have group : Source.Writes (.group _) _ :=
    .group (.mk (.aliased (.bare (word 'u' (by decide))) (.bare (word 'v' (by decide))))
      (joined .cross (.table (.bare (word 'w' (by decide)))) .nothing (by simp) .nil))
  have whole : WritesSteps _ _ :=
    .mk (.table (.quoted (by simp) : Name.Writes "a-b".toList _))
      (joined .leftOuter group condition (by simp)
        (joined .right (.table (.bare (word 'z' (by decide)))) equal (by simp) .nil))
  exact ⟨_, _, rfl, whole, rfl, (read_of_writesSteps ⟨{}, .empty⟩ whole).1⟩

end QueryShorthand.Join
