import QueryShorthand.Preset.Stock
import QueryShorthand.Proofs.Join.Items
import QueryShorthand.Proofs.Token.Scan

/-! The life of a preset instance: it is made at the first reference to its alias, wherever that is
nested, and initialised by each in reading order. -/
namespace QueryShorthand.Join

structure Reference where
  preset : Text
  table : Text
  tableAlias : Text
  argumentText : Text

/-- The alias is the table where none is written. -/
def Leaf.reference? (leaf : Leaf) : Option Reference :=
  leaf.preset.map fun p => ⟨p.1, leaf.table, leaf.tableAlias.getD leaf.table, p.2⟩

/-- The references in reading order, those in parentheses included. -/
def references (tokens : List Token) : List Reference :=
  (Token.leavesAll tokens).filterMap fun t => (Leaf.read? t).bind Leaf.reference?

inductive Event where
  | made (preset : Text) (site : Preset.Site)
  | initialised (tableAlias : Text) (args : List Text)

def Event.tableAlias : Event → Text
  | made _ site => site.tableAlias
  | initialised a _ => a

def Reference.site (setting : Setting) (r : Reference) : Preset.Site :=
  ⟨setting.target, r.table, r.tableAlias⟩

/-- What one reference does: it is served by a new instance, or by the one that its alias has. -/
inductive Serves (setting : Setting) :
    Bindings Preset → Reference → List Event → Bindings Preset → Prop where
  | first {s : Bindings Preset} {r : Reference} {args : List Text} {p p' : Preset}
      (hs : s.get? r.tableAlias = none) (hargs : argumentTexts r.argumentText = .ok args)
      (hmade : setting.registry.instantiate r.preset (r.site setting) = .ok p)
      (hinit : p.configure args = .ok p') :
      Serves setting s r [.made r.preset (r.site setting), .initialised r.tableAlias args]
        (s.insert r.tableAlias p')
  | again {s : Bindings Preset} {r : Reference} {args : List Text} {p p' : Preset}
      (hs : s.get? r.tableAlias = some p) (hname : p.name = r.preset)
      (hargs : argumentTexts r.argumentText = .ok args) (hinit : p.configure args = .ok p') :
      Serves setting s r [.initialised r.tableAlias args] (s.insert r.tableAlias p')

/-- Instances that some references leave, with all that happened to them. -/
inductive Served (setting : Setting) : List Reference → List Event → Bindings Preset → Prop where
  | none : Served setting [] [] .empty
  | next {rs : List Reference} {r : Reference} {trace events : List Event} {s s' : Bindings Preset}
      (h : Served setting rs trace s) (hr : Serves setting s r events s') :
      Served setting (rs ++ [r]) (trace ++ events) s'

/-- The life of the instance that serves `r` and then each of `rest`. -/
structure Lifecycle (setting : Setting) (r : Reference) (rest : List Reference) (p : Preset)
    (events : List Event) : Prop where
  same : ∀ r' ∈ rest, r'.preset = r.preset
  name : p.name = r.preset
  template : setting.registry.get? r.preset = some p.template
  site : p.site = r.site setting
  arguments :
      List.Forall₂ (fun r' args => argumentTexts r'.argumentText = .ok args) (r :: rest) p.accepted
  initialised : p.accepted.foldlM Preset.configure { p with accepted := [] } = .ok p
  events : events = .made p.name p.site :: p.accepted.map (.initialised r.tableAlias)

def referencesTo (a : Text) (rs : List Reference) : List Reference :=
  rs.filter fun r => r.tableAlias = a

def eventsOf (a : Text) (events : List Event) : List Event :=
  events.filter fun e => e.tableAlias = a

/-- What is known of an alias with the references `rs`: nothing happened without them. -/
def Known (setting : Setting) : List Reference → Option Preset → List Event → Prop
  | [], found, events => found = none ∧ events = []
  | r :: rest, found, events => ∃ p, found = some p ∧ Lifecycle setting r rest p events

variable {setting : Setting} {s s' t : Bindings Preset} {r : Reference} {rs rest : List Reference}
  {trace events : List Event} {p p' : Preset} {args : List Text} {a : Text}

theorem configure_eq (h : p.configure args = .ok p') :
    p' = { p with accepted := p.accepted ++ [args] } := by
  obtain ⟨⟨⟩, -, h⟩ := exists_of_bind_eq_ok h
  cases h
  rfl

theorem instantiate_cases {site : Preset.Site}
    (h : setting.registry.instantiate r.preset site = .ok p) :
    ∃ template, setting.registry.get? r.preset = some template ∧
    p = { name := r.preset, template, site } := by
  unfold Preset.Registry.instantiate at h
  split at h
  · next template ht =>
    cases h
    exact ⟨template, ht, rfl⟩
  · cases h

theorem referencesTo_same (rs : List Reference) (r : Reference) :
    referencesTo r.tableAlias (rs ++ [r]) = referencesTo r.tableAlias rs ++ [r] := by
  simp [referencesTo, List.filter_append]

theorem referencesTo_other (h : a ≠ r.tableAlias) :
    referencesTo a (rs ++ [r]) = referencesTo a rs := by
  simp [referencesTo, List.filter_append, Ne.symm h]

theorem tableAlias_of_mem (h : r ∈ referencesTo a rs) : r.tableAlias = a := by
  simpa using List.of_mem_filter h

theorem Serves.tableAlias_eq (h : Serves setting s r events s') :
    ∀ e ∈ events, e.tableAlias = r.tableAlias := by
  cases h with
  | first => simp [Event.tableAlias, Reference.site]
  | again => simp [Event.tableAlias]

theorem Serves.eventsOf_same (h : Serves setting s r events s') (trace : List Event) :
    eventsOf r.tableAlias (trace ++ events) = eventsOf r.tableAlias trace ++ events := by
  rw [eventsOf, List.filter_append]
  congr 1
  exact List.filter_eq_self.2 fun e he => by simpa using h.tableAlias_eq e he

theorem Serves.eventsOf_other (h : Serves setting s r events s') (ha : a ≠ r.tableAlias)
    (trace : List Event) :
    eventsOf a (trace ++ events) = eventsOf a trace := by
  have hnone : (events.filter fun e => e.tableAlias = a) = [] :=
    List.filter_eq_nil_iff.2 fun e he => by simpa [h.tableAlias_eq e he] using Ne.symm ha
  rw [eventsOf, List.filter_append, hnone, List.append_nil, eventsOf]

theorem Serves.get?_other (h : Serves setting s r events s') (ha : a ≠ r.tableAlias) :
    s'.get? a = s.get? a := by
  cases h with
  | first => rw [Bindings.get?_insert, if_neg ha]
  | again => rw [Bindings.get?_insert, if_neg ha]

theorem lifecycle_first (hargs : argumentTexts r.argumentText = .ok args)
    (hmade : setting.registry.instantiate r.preset (r.site setting) = .ok p)
    (hinit : p.configure args = .ok p') :
    Lifecycle setting r [] p'
      [.made r.preset (r.site setting), .initialised r.tableAlias args] := by
  obtain rfl := configure_eq hinit
  obtain ⟨template, ht, rfl⟩ := instantiate_cases hmade
  refine ⟨by simp, rfl, ht, rfl, .cons hargs .nil, ?_, rfl⟩
  simp [hinit]

theorem Lifecycle.again {r' : Reference} (h : Lifecycle setting r rest p events)
    (halias : r'.tableAlias = r.tableAlias) (hname : p.name = r'.preset)
    (hargs : argumentTexts r'.argumentText = .ok args) (hinit : p.configure args = .ok p') :
    Lifecycle setting r (rest ++ [r']) p' (events ++ [.initialised r'.tableAlias args]) := by
  obtain rfl := configure_eq hinit
  constructor
  · intro q hq
    rcases List.mem_append.1 hq with hq | hq
    · exact h.same q hq
    · rw [List.mem_singleton.1 hq, ← hname]
      exact h.name
  · exact h.name
  · exact h.template
  · exact h.site
  · exact List.rel_append h.arguments (.cons hargs .nil)
  · rw [List.foldlM_append, h.initialised]
    show (p.configure args >>= pure) = _
    rw [hinit]
    rfl
  · rw [h.events, List.cons_append, List.map_append, halias]
    rfl

/-- A reference extends the life of the instance of its own alias. -/
theorem Known.serves (h : Known setting (referencesTo r.tableAlias rs) (s.get? r.tableAlias) events)
    {es : List Event} (hr : Serves setting s r es s') :
    Known setting (referencesTo r.tableAlias rs ++ [r]) (s'.get? r.tableAlias) (events ++ es) := by
  cases hr with
  | first hs hargs hmade hinit =>
    rw [Bindings.get?_insert, if_pos rfl]
    cases hrs : referencesTo r.tableAlias rs with
    | nil =>
      rw [hrs] at h
      obtain ⟨-, hnone⟩ := h
      rw [hnone]
      exact ⟨_, rfl, lifecycle_first hargs hmade hinit⟩
    | cons r' rest =>
      rw [hrs, hs] at h
      obtain ⟨p, ⟨⟩, -⟩ := h
  | again hs hname hargs hinit =>
    rw [Bindings.get?_insert, if_pos rfl]
    cases hrs : referencesTo r.tableAlias rs with
    | nil =>
      rw [hrs, hs] at h
      obtain ⟨⟨⟩, -⟩ := h
    | cons r' rest =>
      rw [hrs, hs] at h
      obtain ⟨p, ⟨⟩, hlife⟩ := h
      have halias : r'.tableAlias = r.tableAlias := tableAlias_of_mem (hrs ▸ List.mem_cons_self)
      exact ⟨_, rfl, hlife.again halias.symm hname hargs hinit⟩

theorem Served.known (h : Served setting rs trace s) (a : Text) :
    Known setting (referencesTo a rs) (s.get? a) (eventsOf a trace) := by
  induction h with
  | none => exact ⟨rfl, rfl⟩
  | @next rs r trace events s s' _ hr ih =>
    by_cases ha : a = r.tableAlias
    · subst ha
      rw [referencesTo_same, hr.eventsOf_same]
      exact ih.serves hr
    · rw [referencesTo_other ha, hr.eventsOf_other ha, hr.get?_other ha]
      exact ih

theorem references_append (xs ys : List Token) :
    references (xs ++ ys) = references xs ++ references ys := by
  rw [references, Token.leavesAll_append, List.filterMap_append, ← references, ← references]

theorem references_cons (t : Token) (tokens : List Token) :
    references (t :: tokens) = references [t] ++ references tokens :=
  references_append [t] tokens

theorem references_group (lead tail : Text) (tokens : List Token) :
    references [.group lead tokens tail] = references tokens := by
  rw [references, Token.leavesAll, Token.leaves, Token.leavesAll, List.append_nil, references]

theorem references_leaf (text : Text) :
    references [.leaf text] = ((Leaf.read? text).bind Leaf.reference?).toList := by
  rw [references, Token.leavesAll, Token.leaves, Token.leavesAll]
  cases h : (Leaf.read? text).bind Leaf.reference? <;> simp [h]

theorem references_inPlace (tokens : List Token) :
    references ((Token.inPlace tokens).map Prod.snd) = references tokens := by
  rw [references, Token.leavesAll_inPlace, references]

theorem serves_of_configure {preset table tableAlias argumentText : Text}
    (hargs : argumentTexts argumentText = .ok args)
    (h : (configure setting preset table tableAlias args).run s = .ok ((), t)) :
    ∃ events, Serves setting s ⟨preset, table, tableAlias, argumentText⟩ events t := by
  obtain ⟨_, _, ⟨⟩, h⟩ := exists_of_run_bind h
  obtain ⟨p, hfound, h⟩ := exists_of_run_lift_bind h
  obtain ⟨p', hinit, h⟩ := exists_of_run_lift_bind h
  cases h
  unfold instanceFor at hfound
  split at hfound
  · next q hs =>
    split at hfound
    · next hname =>
      cases hfound
      exact ⟨_, .again hs hname hargs hinit⟩
    · cases hfound
  · next hs => exact ⟨_, .first hs hargs hfound hinit⟩

theorem serves_of_leaf {before : Option Text} {text : Text} {x : Step}
    (h : (ofToken setting (.leaf text) before).run s = .ok (x, t)) :
    references [.leaf text] = [] ∧ t = s ∨
      ∃ r events, references [.leaf text] = [r] ∧ Serves setting s r events t := by
  rw [ofToken] at h
  obtain ⟨y, u, hy, h⟩ := exists_of_run_bind h
  obtain ⟨-, rfl⟩ := eq_ok_of_run_lift h
  rw [references_leaf]
  unfold ofLeaf at hy
  split at hy
  · cases hy
  next leaf hleaf =>
  obtain ⟨source, u, hsource, hy⟩ := exists_of_run_bind hy
  obtain ⟨-, rfl⟩ := eq_ok_of_run_lift hy
  rw [hleaf, Option.bind_some, Leaf.reference?]
  unfold leafSource at hsource
  split at hsource
  · next hp =>
    cases hsource
    rw [hp]
    exact .inl ⟨rfl, rfl⟩
  · next name argumentText hp =>
    obtain ⟨args, hargs, hsource⟩ := exists_of_run_lift_bind hsource
    obtain ⟨⟨⟩, u, hconfigure, hsource⟩ := exists_of_run_bind hsource
    cases hsource
    obtain ⟨events, hserves⟩ := serves_of_configure hargs hconfigure
    rw [hp]
    exact .inr ⟨_, events, rfl, hserves⟩

theorem Takes.served {items : List (Option Text × Token)} {xs : List Step}
    (h : Takes setting s items xs s') (hs : Served setting rs trace s) :
    ∃ trace, Served setting (rs ++ references (items.map Prod.snd)) trace s' := by
  induction h generalizing rs trace with
  | nil s => exact ⟨trace, by simpa [references, Token.leavesAll] using hs⟩
  | leaf h _ ih =>
    rw [List.map_cons, references_cons, ← List.append_assoc]
    rcases serves_of_leaf h with ⟨hnone, rfl⟩ | ⟨r, events, hr, hserves⟩
    · rw [hnone, List.append_nil]
      exact ih hs
    · rw [hr]
      exact ih (hs.next hserves)
  | group _ _ _ _ _ _ ihinner ih =>
    obtain ⟨trace', hinner⟩ := ihinner hs
    rw [references_inPlace] at hinner
    rw [List.map_cons, references_cons, references_group, ← List.append_assoc]
    exact ih hinner

theorem served_of_read {source : Text} {j : Join} (h : read setting source = .ok j) :
    ∃ tokens trace, Token.readWith checkLeaf Kind.symbols source = .ok tokens ∧
      Served setting (references tokens) trace j.presets := by
  obtain ⟨tokens, ht, ⟨-, htakes⟩, -⟩ := (sequenced_read setting source).elements j h
  obtain ⟨trace, hserved⟩ := htakes.served .none
  rw [references_inPlace, List.nil_append] at hserved
  exact ⟨tokens, trace, ht, hserved⟩

theorem Served.preset_eq (h : Served setting rs trace s) {r' : Reference} (hr : r ∈ rs)
    (hr' : r' ∈ rs) (ha : r.tableAlias = r'.tableAlias) : r.preset = r'.preset := by
  have hknown := h.known r.tableAlias
  have hmem : r ∈ referencesTo r.tableAlias rs := List.mem_filter.2 ⟨hr, by simp⟩
  have hmem' : r' ∈ referencesTo r.tableAlias rs := List.mem_filter.2 ⟨hr', by simp [ha]⟩
  cases hrs : referencesTo r.tableAlias rs with
  | nil =>
    rw [hrs] at hmem
    cases hmem
  | cons first rest =>
    rw [hrs] at hknown hmem hmem'
    obtain ⟨p, -, hlife⟩ := hknown
    have hsame : ∀ q ∈ first :: rest, q.preset = first.preset :=
      List.forall_mem_cons.2 ⟨rfl, hlife.same⟩
    exact (hsame r hmem).trans (hsame r' hmem').symm

/-- The references to an alias share one instance, made at the first of them and initialised by each
in reading order. If two of them name different presets then the join is refused. -/
theorem lifecycle_of_read (setting : Setting) (source : Text) :
    (∀ j, read setting source = .ok j → ∃ tokens trace,
      Token.readWith checkLeaf Kind.symbols source = .ok tokens ∧
      Served setting (references tokens) trace j.presets ∧
      (∀ a r rest, referencesTo a (references tokens) = r :: rest →
        ∃ p, j.presets.get? a = some p ∧ Lifecycle setting r rest p (eventsOf a trace) ∧
          ∀ last, (r :: rest).getLast? = some last →
            ∃ args, p.accepted.getLast? = some args ∧ argumentTexts last.argumentText = .ok args) ∧
      ∀ a, referencesTo a (references tokens) = [] → j.presets.get? a = none) ∧
    ∀ tokens, Token.readWith checkLeaf Kind.symbols source = .ok tokens →
      ∀ r ∈ references tokens, ∀ r' ∈ references tokens, r.tableAlias = r'.tableAlias →
        r.preset ≠ r'.preset → ∃ e, read setting source = .error e := by
  constructor
  · intro j h
    obtain ⟨tokens, trace, ht, hserved⟩ := served_of_read h
    refine ⟨tokens, trace, ht, hserved, fun a r rest hrs => ?_, fun a hrs => ?_⟩
    · have hknown := hserved.known a
      rw [hrs] at hknown
      obtain ⟨p, hp, hlife⟩ := hknown
      exact ⟨p, hp, hlife, fun last hlast => exists_getLast_of_forall₂ hlife.arguments hlast⟩
    · have hknown := hserved.known a
      rw [hrs] at hknown
      exact hknown.1
  · intro tokens ht r hr r' hr' ha hne
    cases hread : read setting source with
    | error e => exact ⟨e, rfl⟩
    | ok j =>
      obtain ⟨tokens', trace, ht', hserved⟩ := served_of_read hread
      obtain rfl : tokens = tokens' := Except.ok.inj (ht.symm.trans ht')
      exact absurd (hserved.preset_eq hr hr' ha) hne

/-- A reference in parentheses shares the instance that was made before them. -/
theorem lifecycle_of_read_nested : ∃ j p,
    read ⟨{}, .stock⟩ "l.t->Latest(a,b)*(u*l.v->Latest(c,d))".toList = .ok j ∧
      j.presets.get? ['l'] = some p ∧ p.site = ⟨{}, ['t'], ['l']⟩ ∧
      p.accepted = [[['a'], ['b']], [['c'], ['d']]] := by
  obtain ⟨j, hread⟩ := exists_of_isOk
    (by decide +kernel : (read ⟨{}, .stock⟩ "l.t->Latest(a,b)*(u*l.v->Latest(c,d))".toList).isOk =
      true)
  have htokens :
      Token.readWith checkLeaf Kind.symbols "l.t->Latest(a,b)*(u*l.v->Latest(c,d))".toList =
      .ok [.leaf "l.t->Latest(a,b)".toList, .combinator ['*'],
        .group [] [.leaf ['u'], .combinator ['*'], .leaf "l.v->Latest(c,d)".toList] []] := by
    with_unfolding_all rfl
  obtain ⟨tokens, trace, ht, -, hlives, -⟩ := (lifecycle_of_read _ _).1 j hread
  cases htokens.symm.trans ht
  obtain ⟨p, hp, hlife, -⟩ := hlives ['l'] ⟨"Latest".toList, ['t'], ['l'], "a,b".toList⟩
    [⟨"Latest".toList, ['v'], ['l'], "c,d".toList⟩] rfl
  have hfirst : argumentTexts "a,b".toList = .ok [['a'], ['b']] := by with_unfolding_all rfl
  have hsecond : argumentTexts "c,d".toList = .ok [['c'], ['d']] := by with_unfolding_all rfl
  refine ⟨j, p, hread, hp, hlife.site, ?_⟩
  obtain ⟨args, _, hargs, hrest, hacc⟩ := List.forall₂_cons_left_iff.1 hlife.arguments
  obtain ⟨args', _, hargs', hnil, rfl⟩ := List.forall₂_cons_left_iff.1 hrest
  cases hnil
  cases hfirst.symm.trans hargs
  cases hsecond.symm.trans hargs'
  exact hacc

end QueryShorthand.Join
