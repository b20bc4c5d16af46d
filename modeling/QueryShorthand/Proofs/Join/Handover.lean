import QueryShorthand.Proofs.Join.Arguments
import QueryShorthand.Proofs.Join.Lifecycle

/-! Arguments on their way to the instance of a preset. In a join that is valid with some arguments
of a reference, any others reach the instance as they are written. -/
namespace QueryShorthand.Join

theorem checks_checkLeaf : Token.Checks checkLeaf := by
  intro x y h
  unfold checkLeaf at h
  split at h
  · exact (Except.ok.inj h).symm
  · cases h

theorem readWith_iff {source : Text} {tokens : List Token} :
    Token.readWith checkLeaf Kind.symbols source = .ok tokens ↔
      cutter.Scans [{}] false source tokens ∧ Accepted tokens :=
  Cutter.readWith_eq_ok_iff checks_checkLeaf

variable {setting : Setting} {r : Reference} {args : List Text} {rs refs : List Reference}
  {trace events : List Event} {s s' t : Bindings Preset} {p : Preset} {xs : List Step}

/-- Reading `x` comes to the reference `r` of `refs`, and initialises the instance that the
references before it leave with `args`; where these are refused so is the whole. -/
def Reaches (setting : Setting) (r : Reference) (args : List Text) (rs : List Reference)
    (s : Bindings Preset) (refs : List Reference) {α : Type} (x : Reading α) : Prop :=
  ∃ front behind trace t p, refs = front ++ r :: behind ∧ Served setting (rs ++ front) trace t ∧
    instanceFor setting t r.preset r.table r.tableAlias = .ok p ∧
    ∀ e, p.configure args = .error e → x.run s = .error e

theorem Serves.exists_instance (h : Serves setting s r events s') :
    ∃ p, instanceFor setting s r.preset r.table r.tableAlias = .ok p := by
  cases h with
  | @first _ p _ hs _ hmade _ =>
    refine ⟨p, ?_⟩
    rw [instanceFor, hs]
    exact hmade
  | @again _ p _ hs hname _ _ =>
    refine ⟨p, ?_⟩
    rw [instanceFor, hs]
    exact if_pos hname

theorem run_leaf_error {leaf : Leaf} {text : Text} {before : Option Text} {e : Error}
    (hleaf : Leaf.read? text = some leaf) (hr : leaf.reference? = some r)
    (hargs : argumentTexts r.argumentText = .ok args)
    (hp : instanceFor setting s r.preset r.table r.tableAlias = .ok p)
    (he : p.configure args = .error e) :
    (ofToken setting (.leaf text) before).run s = .error e := by
  obtain ⟨⟨name, argumentText⟩, hpreset, rfl⟩ := Option.map_eq_some_iff.1 hr
  have hconfigure :
      (configure setting name leaf.table (leaf.tableAlias.getD leaf.table) args).run s =
        .error e := by
    have hget : (get : Reading (Bindings Preset)).run s = .ok (s, s) := rfl
    have hfound : (liftM (instanceFor setting s name leaf.table (leaf.tableAlias.getD leaf.table)) :
        Reading Preset).run s = .ok (p, s) := by
      rw [hp]
      rfl
    rw [configure, run_bind_ok hget, run_bind_ok hfound]
    refine run_bind_error ?_
    rw [he]
    rfl
  have htexts :
      (liftM (argumentTexts argumentText) : Reading (List Text)).run s = .ok (args, s) := by
    rw [hargs]
    rfl
  rw [ofToken, ofLeaf, hleaf]
  refine run_bind_error (run_bind_error ?_)
  simp only [leafSource, hpreset]
  rw [run_bind_ok htexts]
  exact run_bind_error hconfigure

theorem reaches_of_item {front behind : List Token} {token token' : Token}
    (h : token.isCombinator = false) (h' : token'.isCombinator = false)
    (hitem : ∀ before rs trace s x t, Served setting rs trace s →
      (ofToken setting token before).run s = .ok (x, t) →
      Reaches setting r args rs s (references [token']) (ofToken setting token' before))
    (hserved : Served setting rs trace s)
    (hrun : (Slot.itemsAfter none (slots setting (front ++ token :: behind))).run s =
      .ok (xs, s')) :
    Reaches setting r args rs s (references (front ++ token' :: behind))
      (Slot.itemsAfter none (slots setting (front ++ token' :: behind))) := by
  obtain ⟨items, before, items', hplace⟩ := Token.exists_inPlace front behind
  obtain ⟨halternates, hrun⟩ := alternates_of_slots hrun
  have halternates' : Token.Alternates (front ++ token' :: behind) :=
    halternates.congr (by simp [h, h'])
  rw [hplace token h, Token.readEach_append] at hrun
  obtain ⟨ys, t, hfront, hrun⟩ := exists_of_run_bind hrun
  obtain ⟨zs, u, hrest, -⟩ := exists_of_run_bind hrun
  rw [Token.readEach_cons] at hrest
  obtain ⟨x, v, hx, -⟩ := exists_of_run_bind hrest
  obtain ⟨htakes, -⟩ := takes_of_readEach (fun p _ => traced_token p.2) hfront
  obtain ⟨trace', hserved'⟩ := htakes.served hserved
  obtain ⟨front', behind', trace'', t', p, hrefs, hserved'', hp, herror⟩ :=
    hitem before _ _ _ _ _ hserved' hx
  refine ⟨references (items.map Prod.snd) ++ front', behind' ++ references (items'.map Prod.snd),
    trace'', t', p, ?_, by rwa [← List.append_assoc], hp, fun e he => ?_⟩
  · rw [← references_inPlace, hplace token' h', List.map_append, references_append, List.map_cons,
      references_cons, hrefs]
    simp
  · rw [slots_eq_map, Token.itemsAfter_of_alternates halternates', hplace token' h',
      Token.readEach_append, run_bind_ok hfront]
    refine run_bind_error ?_
    rw [Token.readEach_cons]
    exact run_bind_error (herror e he)

section

variable {source preset table text text' : Text} {tableAlias : Option Text} {args' : List Text}
  {tokens tokens' : List Token}

/-- A reference with other arguments in the place of one that was read. By induction on where it
stands: in parentheses it is reached as part of the group. -/
theorem reaches_of_swaps (hs : Source.Writes (.table table tableAlias) source)
    (hp : Name.IsWord preset) (h : WritesArguments args text) (h' : WritesArguments args' text')
    (hsw : Token.Swaps (referenceText source preset text) (referenceText source preset text') tokens
      tokens')
    (hserved : Served setting rs trace s)
    (hrun : (Slot.itemsAfter none (slots setting tokens)).run s = .ok (xs, s')) :
    Reaches setting ⟨preset, table, tableAlias.getD table, text'⟩ args' rs s (references tokens')
      (Slot.itemsAfter none (slots setting tokens')) := by
  induction hsw generalizing rs trace s xs s' with
  | leaf front behind w =>
    refine reaches_of_item rfl rfl (fun before rs trace s step t hserved hrun => ?_) hserved hrun
    have hserves := serves_of_leaf hrun
    have hread := Leaf.read?_reference hs hp h w
    cases hb : Leaf.bracket? w with
    | none =>
      rw [hb, Option.map_none] at hread
      rw [ofToken, ofLeaf, hread] at hrun
      cases hrun
    | some b =>
      rw [hb, Option.map_some] at hread
      have hread' := Leaf.read?_reference hs hp h' w
      rw [hb, Option.map_some] at hread'
      rw [references_leaf, hread] at hserves
      rcases hserves with ⟨hnil, -⟩ | ⟨r', events, heq, hserves⟩
      · cases hnil
      cases heq
      obtain ⟨p, hp⟩ := hserves.exists_instance
      refine ⟨[], [], trace, s, p, ?_, by rwa [List.append_nil], hp, fun e he => ?_⟩
      · rw [references_leaf, hread']
        rfl
      · exact run_leaf_error hread' rfl h'.argumentTexts hp he
  | lead front behind w ts tail =>
    refine reaches_of_item rfl rfl (fun before rs trace s step t _ hrun => ?_) hserved hrun
    obtain ⟨step, u, hgroup, -⟩ := exists_of_run_bind hrun
    rw [ofGroup, if_pos (.inl (by simp [referenceText]))] at hgroup
    cases hgroup
  | inside front behind lead tail _ ih =>
    refine reaches_of_item rfl rfl (fun before rs trace s step t hserved hrun => ?_) hserved hrun
    obtain ⟨step, u, hgroup, -⟩ := exists_of_run_bind hrun
    unfold ofGroup at hgroup
    split at hgroup
    · cases hgroup
    next hparts =>
    obtain ⟨inner, v, hinner, -⟩ := exists_of_run_bind hgroup
    obtain ⟨front', behind', trace', t', p, hrefs, hserved', hp, herror⟩ := ih hserved hinner
    refine ⟨front', behind', trace', t', p, by rw [references_group, hrefs], hserved', hp,
      fun e he => ?_⟩
    rw [ofToken]
    refine run_bind_error ?_
    rw [ofGroup, if_neg hparts]
    exact run_bind_error (herror e he)

theorem accepted_iff {front behind : List Token} {token : Token} :
    Accepted (front ++ token :: behind) ↔ Accepted front ∧ Accepted [token] ∧ Accepted behind := by
  simp only [Accepted, Token.leavesAll_append, Token.leavesAll, List.append_nil,
    List.forall_mem_append]

theorem accepted_of_swaps (hs : Source.Writes (.table table tableAlias) source)
    (hp : Name.IsWord preset) (h : WritesArguments args text) (h' : WritesArguments args' text')
    (hsw : Token.Swaps (referenceText source preset text) (referenceText source preset text') tokens
      tokens')
    (ha : Accepted tokens) : Accepted tokens' := by
  have leaf {z : Text} : Accepted [.leaf z] ↔ (Leaf.read? z).isSome = true := by
    simp [Accepted, Token.leavesAll, Token.leaves, checkLeaf, Option.isSome_iff_ne_none]
  have group (lead tail : Text) (ts : List Token) :
      Accepted [.group lead ts tail] ↔ Accepted ts := by
    simp [Accepted, Token.leavesAll, Token.leaves]
  induction hsw with
  | leaf front behind w =>
    obtain ⟨hfront, hleaf, hbehind⟩ := accepted_iff.1 ha
    refine accepted_iff.2 ⟨hfront, leaf.2 ?_, hbehind⟩
    have hread := leaf.1 hleaf
    rw [Leaf.read?_reference hs hp h, Option.isSome_map] at hread
    rwa [Leaf.read?_reference hs hp h', Option.isSome_map]
  | lead front behind w ts tail =>
    obtain ⟨hfront, hgroup, hbehind⟩ := accepted_iff.1 ha
    exact accepted_iff.2 ⟨hfront, (group ..).2 ((group ..).1 hgroup), hbehind⟩
  | inside front behind lead tail _ ih =>
    obtain ⟨hfront, hgroup, hbehind⟩ := accepted_iff.1 ha
    exact accepted_iff.2 ⟨hfront, (group ..).2 (ih ((group ..).1 hgroup)), hbehind⟩

end

theorem Served.exists_accepted {front behind : List Reference}
    (h : Served setting (front ++ r :: behind) trace s)
    (hargs : argumentTexts r.argumentText = .ok args) : ∃ p, s.get? r.tableAlias = some p ∧
      p.accepted[(referencesTo r.tableAlias front).length]? = some args := by
  have hknown := h.known r.tableAlias
  have hrefs : referencesTo r.tableAlias (front ++ r :: behind) =
      referencesTo r.tableAlias front ++ r :: referencesTo r.tableAlias behind := by
    simp [referencesTo, List.filter_append]
  obtain ⟨first, rest, hfirst⟩ := List.exists_cons_of_ne_nil
    (l := referencesTo r.tableAlias (front ++ r :: behind)) (by simp [hrefs])
  rw [hfirst] at hknown
  obtain ⟨p, hp, hlife⟩ := hknown
  have harguments := hlife.arguments
  rw [← hfirst, hrefs] at harguments
  obtain ⟨args', haccepted, hargs'⟩ := exists_getElem_of_forall₂ harguments
  cases hargs.symm.trans hargs'
  exact ⟨p, hp, haccepted⟩

/-- Let a reference begin an item of a join that is read. With any other arguments in its place the
text has the tokens of a join again, and the instance that the references before it leave is
initialised with exactly these: the join is refused if the instance refuses them, and otherwise has
them in the place of this reference. -/
theorem configured_of_read {before behind source preset table text text' : Text}
    {tableAlias : Option Text} {args' : List Text} {j : Join}
    (hstart : cutter.startsLeaf before = true) (hs : Source.Writes (.table table tableAlias) source)
    (hp : Name.IsWord preset) (hascii : ∀ c ∈ preset, c.toNat < 128) (h : WritesArguments args text)
    (h' : WritesArguments args' text')
    (hread : read setting (before ++ (referenceText source preset text ++ behind)) = .ok j) :
    ∃ tokens front after trace s p,
      Token.readWith checkLeaf Kind.symbols (before ++
        (referenceText source preset text' ++ behind)) = .ok tokens ∧
      references tokens = front ++ ⟨preset, table, tableAlias.getD table, text'⟩ :: after ∧
      Served setting front trace s ∧
      instanceFor setting s preset table (tableAlias.getD table) = .ok p ∧
      (∀ e, p.configure args' = .error e →
        read setting (before ++ (referenceText source preset text' ++ behind)) = .error e) ∧
      ∀ j', read setting (before ++ (referenceText source preset text' ++ behind)) = .ok j' →
        ∃ q, j'.presets.get? (tableAlias.getD table) = some q ∧
          q.accepted[(referencesTo (tableAlias.getD table) front).length]? = some args' := by
  obtain ⟨tokens, steps, presets, hne, htokens, hrun, -⟩ := read_cases hread
  obtain ⟨hscan, hleaves⟩ := readWith_iff.1 htokens
  obtain ⟨tokens', hscan', hsw⟩ := Cutter.exists_swaps hstart (firm_reference hs hp hascii h)
    (firm_reference hs hp hascii h') hscan
  have htokens' := readWith_iff.2 ⟨hscan', accepted_of_swaps hs hp h h' hsw hleaves⟩
  obtain ⟨front, after, trace, s, p, hrefs, hserved, hp, herror⟩ :=
    reaches_of_swaps hs hp h h' hsw .none hrun
  refine ⟨tokens', front, after, trace, s, p, htokens', hrefs, hserved, hp, fun e he =>
    ?_, fun j' hj' => ?_⟩
  · obtain ⟨token, rest, rfl⟩ : ∃ token rest, tokens' = token :: rest := by
      refine List.exists_cons_of_ne_nil ?_
      rintro rfl
      simp [references, Token.leavesAll] at hrefs
    rw [read, htokens']
    show ((Slot.itemsAfter none (slots setting (token :: rest))).run .empty >>= _) = _
    rw [herror e he]
    rfl
  · obtain ⟨ts, trace', hts, hserved'⟩ := served_of_read hj'
    cases htokens'.symm.trans hts
    rw [hrefs] at hserved'
    exact hserved'.exists_accepted h'.argumentTexts

/-- Signs that mean something to every reader that the arguments pass, in a sequence in
parentheses. -/
theorem configured_of_read_quoted : ∃ (j : Join) (q : Preset) (n : Nat),
    read ⟨{}, Bindings.empty.insert "Tag".toList ⟨fun _ _ _ => .ok (), fun _ _ => .ok []⟩⟩
        "a*(b- p.t->Tag('it\\'s', ')](', '\\\\','')[x,y])<p.u->Tag()[z]".toList = .ok j ∧
      j.presets.get? ['p'] = some q ∧
      q.accepted[n]? = some ["it's".toList, ")](".toList, ['\\'], []] := by
  have nothing : Text.Blank [] := Text.blank_nil
  have space : Text.Blank [' '] := Text.forall_mem_of_all (by decide)
  have word (c : Char) (hc : Name.isStart c = true) : Name.IsWord [c] := ⟨c, [], rfl, hc, by simp⟩
  have hsource : Source.Writes (.table ['t'] (some ['p'])) "p.t".toList :=
    .aliased (.bare (word 'p' (by decide))) (.bare (word 't' (by decide)))
  have hpreset : Name.IsWord "Tag".toList :=
    ⟨'T', ['a', 'g'], rfl, by decide, Text.forall_mem_of_all (by decide +kernel)⟩
  have hargs : WritesArguments ["it's".toList, ")](".toList, ['\\'], []] _ :=
    .more _ nothing nothing
      (.more _ space nothing (.more _ space nothing (.last _ nothing nothing)))
  obtain ⟨j, hread⟩ := exists_of_isOk (by decide +kernel : (read
    ⟨{}, Bindings.empty.insert "Tag".toList ⟨fun _ _ _ => .ok (), fun _ _ => .ok []⟩⟩
    ("a*(b- ".toList ++ (referenceText "p.t".toList "Tag".toList [] ++
      "[x,y])<p.u->Tag()[z]".toList))).isOk = true)
  obtain ⟨tokens, front, after, trace, s, p, -, -, -, -, -, hq⟩ :=
    configured_of_read (by decide +kernel) hsource
    hpreset (Text.forall_mem_of_all (by decide)) (.none nothing) hargs hread
  obtain ⟨j', hread'⟩ := exists_of_isOk (by decide +kernel : (read
    ⟨{}, Bindings.empty.insert "Tag".toList ⟨fun _ _ _ => .ok (), fun _ _ => .ok []⟩⟩
    "a*(b- p.t->Tag('it\\'s', ')](', '\\\\','')[x,y])<p.u->Tag()[z]".toList).isOk = true)
  obtain ⟨q, hq, haccepted⟩ := hq j' hread'
  exact ⟨j', q, _, hread', hq, haccepted⟩

end QueryShorthand.Join
