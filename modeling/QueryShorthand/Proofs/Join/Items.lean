import QueryShorthand.Proofs.Join.Reading
import QueryShorthand.Proofs.Token.Alternation

/-! Reading a join item by item, each with the preset instances that the items before it left. -/
namespace QueryShorthand.Join

variable {setting : Setting} {tokens : List Token} {items : List (Option Text × Token)}
  {s s' t : Bindings Preset} {x : Step} {xs : List Step}

def ofToken (setting : Setting) : Token → Option Text → Reading Step
  | .combinator c, _ => throw (.combinator c)
  | .leaf t, before => do
    let x ← ofLeaf setting (before.bind Kind.ofSymbol?) t
    placed before.isNone t x
  | .group lead tokens tail, before => do
    let written := (Token.group lead tokens tail).written
    let x ← ofGroup (before.bind Kind.ofSymbol?) written lead tail (slots setting tokens)
    placed before.isNone written x

theorem slots_eq_map (tokens : List Token) :
    slots setting tokens = tokens.map (Token.slotOf (ofToken setting)) := by
  induction tokens with
  | nil => rfl
  | cons t tokens ih =>
    rw [slots, ih, List.map_cons]
    cases t <;> rw [slot] <;> rfl

/-- What reading items in order takes: each is read as one step, and the instances go from `s`
through all of them to `s'`. What is in the parentheses of a group is read before its bracket. -/
inductive Takes (setting : Setting) :
    Bindings Preset → List (Option Text × Token) → List Step → Bindings Preset → Prop where
  | nil (s : Bindings Preset) : Takes setting s [] [] s
  | leaf {before : Option Text} {text : Text} {s t s' : Bindings Preset} {x : Step}
      {items : List (Option Text × Token)} {xs : List Step}
      (h : (ofToken setting (.leaf text) before).run s = .ok (x, t))
      (hrest : Takes setting t items xs s') :
      Takes setting s ((before, .leaf text) :: items) (x :: xs) s'
  | group {before : Option Text} {tokens : List Token} {tail : Text} {s t s' : Bindings Preset}
      {x : Step}
      {items : List (Option Text × Token)} {xs inner : List Step} (hne : tokens ≠ [])
      (ht : tail = [] ∨ Leaf.inBrackets tail = true)
      (hinner : Takes setting s (Token.inPlace tokens) inner t)
      (hstep : step (before.bind Kind.ofSymbol?) (.group inner)
        (if tail = [] then none else some tail) = .ok x)
      (hplaced : placed before.isNone (Token.group [] tokens tail).written x = .ok x)
      (hrest : Takes setting t items xs s') :
      Takes setting s ((before, .group [] tokens tail) :: items) (x :: xs) s'

theorem throw_bind (e : Error) (f : List Step → Reading (List Step)) :
    (throw e >>= f : Reading (List Step)) = throw e := rfl

theorem alternates_of_slots
    (h : (Slot.itemsAfter none (slots setting tokens)).run s = .ok (xs, s')) :
    Token.Alternates tokens ∧
      (Token.readEach (ofToken setting) (Token.inPlace tokens)).run s = .ok (xs, s') := by
  rw [slots_eq_map] at h
  by_cases ha : Token.Alternates tokens
  · rw [Token.itemsAfter_of_alternates ha] at h
    exact ⟨ha, h⟩
  · obtain ⟨front, behind, c, -, hread⟩ := Token.exists_of_not_alternates throw_bind ha
    rw [hread] at h
    obtain ⟨_, _, -, h⟩ := exists_of_run_bind h
    cases h

theorem Takes.cons {p : Option Text × Token} (h : Takes setting s [p] [x] t)
    (hrest : Takes setting t items xs s') : Takes setting s (p :: items) (x :: xs) s' := by
  cases h with
  | leaf h hnil =>
    cases hnil
    exact .leaf h hrest
  | group hne ht hinner hstep hplaced hnil =>
    cases hnil
    exact .group hne ht hinner hstep hplaced hrest

def AlternatesInside (token : Token) : Prop :=
  ∀ lead inner tail level, token = .group lead inner tail → Token.Within inner level →
    Token.Alternates level

def Traced (setting : Setting) (token : Token) : Prop :=
  ∀ before s x s', (ofToken setting token before).run s = .ok (x, s') →
    Takes setting s [(before, token)] [x] s' ∧ AlternatesInside token

theorem takes_of_readEach (htraced : ∀ p ∈ items, Traced setting p.2)
    (h : (Token.readEach (ofToken setting) items).run s = .ok (xs, s')) :
    Takes setting s items xs s' ∧ ∀ p ∈ items, AlternatesInside p.2 := by
  induction items generalizing s xs with
  | nil =>
    cases h
    exact ⟨.nil _, by simp⟩
  | cons p items ih =>
    obtain ⟨hp, hitems⟩ := List.forall_mem_cons.1 htraced
    rw [Token.readEach_cons] at h
    obtain ⟨x, t, hx, h⟩ := exists_of_run_bind h
    obtain ⟨ys, u, hy, h⟩ := exists_of_run_bind h
    cases h
    obtain ⟨hfirst, hinside⟩ := hp p.1 s x t hx
    obtain ⟨hrest, hrestInside⟩ := ih hitems hy
    exact ⟨hfirst.cons hrest, List.forall_mem_cons.2 ⟨hinside, hrestInside⟩⟩

theorem takes_of_slots (htraced : ∀ t ∈ tokens, Traced setting t)
    (h : (Slot.itemsAfter none (slots setting tokens)).run s = .ok (xs, s')) :
    Takes setting s (Token.inPlace tokens) xs s' ∧
      ∀ level, Token.Within tokens level → Token.Alternates level := by
  obtain ⟨ha, h⟩ := alternates_of_slots h
  obtain ⟨htakes, hinside⟩ :=
    takes_of_readEach (fun p hp => htraced p.2 (Token.mem_of_mem_inPlace hp)) h
  refine ⟨htakes, fun level hl => ?_⟩
  cases hl with
  | whole => exact ha
  | inside hm hl =>
    obtain ⟨b, hb⟩ := ha.exists_mem_inPlace rfl hm
    exact hinside _ hb _ _ _ level rfl hl

theorem traced_group {lead tail : Text} (htraced : ∀ t ∈ tokens, Traced setting t) :
    Traced setting (.group lead tokens tail) := by
  intro before s x s' h
  rw [ofToken] at h
  obtain ⟨y, t, hy, h⟩ := exists_of_run_bind h
  obtain ⟨hz, rfl⟩ := eq_ok_of_run_lift h
  obtain rfl := eq_of_placed hz
  unfold ofGroup at hy
  split at hy
  · cases hy
  next hparts =>
  obtain ⟨inner, u, hi, hy⟩ := exists_of_run_bind hy
  obtain ⟨hw, rfl⟩ := eq_ok_of_run_lift hy
  obtain ⟨htakes, hlevels⟩ := takes_of_slots htraced hi
  have hne : tokens ≠ [] := by
    rintro rfl
    cases hi
  have hlead : lead = [] := by
    by_contra hlead
    exact hparts (.inl hlead)
  have htail : tail = [] ∨ Leaf.inBrackets tail = true := by
    by_contra ht
    obtain ⟨hne, hb⟩ := not_or.1 ht
    exact hparts (.inr ⟨hne, by simpa using hb⟩)
  subst hlead
  refine ⟨.group hne htail htakes hw hz (.nil _), ?_⟩
  rintro _ _ _ level ⟨⟩ hl
  exact hlevels level hl

mutual

theorem traced_token : ∀ t : Token, Traced setting t
  | .combinator c => by
    intro before s x s' h
    cases h
  | .leaf text => by
    intro before s x s' h
    refine ⟨.leaf h (.nil _), ?_⟩
    rintro _ _ _ _ ⟨⟩
  | .group _ tokens _ => traced_group (traced_tokens tokens)

theorem traced_tokens : ∀ tokens : List Token, ∀ t ∈ tokens, Traced setting t
  | [] => by simp
  | t :: tokens => List.forall_mem_cons.2 ⟨traced_token t, traced_tokens tokens⟩

end

/-- The result that is expected, or an error about a combinator. -/
def Settles {β : Type} (result : Except Error β) (y : β) : Prop :=
  result = .ok y ∨ ∃ c, result = .error (.combinator c)

theorem Settles.onlyCombinators {β : Type} {result : Except Error β} {y : β}
    (h : Settles result y) :
    Token.OnlyCombinators result := by
  intro e he
  rcases h with h | ⟨c, h⟩
  · cases h.symm.trans he
  · cases h.symm.trans he
    exact ⟨c, rfl⟩

theorem Settles.bind {α β : Type} {r : Reading α} {f : α → Reading β} {a : α} {b : β}
    (h : Settles (r.run s) (a, t)) (hf : Settles ((f a).run t) (b, s')) :
    Settles ((r >>= f).run s) (b, s') := by
  rw [StateT.run_bind]
  rcases h with h | ⟨c, h⟩
  · rw [h]
    exact hf
  · rw [h]
    exact .inr ⟨c, rfl⟩

theorem settles_lift {α : Type} {r : Except Error α} {a : α} (h : r = .ok a) :
    Settles ((liftM r : Reading α).run s) (a, s) := by
  rw [h]
  exact .inl rfl

theorem settles_slots
    (h : Settles ((Token.readEach (ofToken setting) (Token.inPlace tokens)).run s) (xs, s')) :
    Settles ((Slot.itemsAfter none (slots setting tokens)).run s) (xs, s') := by
  rw [slots_eq_map]
  by_cases ha : Token.Alternates tokens
  · rw [Token.itemsAfter_of_alternates ha]
    exact h
  · obtain ⟨front, behind, c, hplace, hread⟩ := Token.exists_of_not_alternates throw_bind ha
    rw [hread, StateT.run_bind]
    cases hf : (Token.readEach (ofToken setting) front).run s with
    | ok p => exact .inr ⟨c, rfl⟩
    | error e =>
      have hall : (Token.readEach (ofToken setting) (Token.inPlace tokens)).run s = .error e := by
        rw [hplace, Token.readEach_append, StateT.run_bind, hf]
        rfl
      obtain ⟨c', rfl⟩ := h.onlyCombinators e hall
      exact .inr ⟨c', rfl⟩

theorem settles_ofGroup {kind : Option Kind} {written tail : Text}
    {inner : List (Slot (Reading Step))} (ht : tail = [] ∨ Leaf.inBrackets tail = true)
    (hinner : Settles ((Slot.itemsAfter none inner).run s) (xs, t))
    (hstep : step kind (.group xs) (if tail = [] then none else some tail) = .ok x) :
    Settles ((ofGroup kind written [] tail inner).run s) (x, t) := by
  have hparts : ¬ (([] : Text) ≠ [] ∨ (tail ≠ [] ∧ (!Leaf.inBrackets tail) = true)) := by
    rcases ht with rfl | hb
    · simp
    · simp [hb]
  unfold ofGroup
  rw [if_neg hparts]
  exact .bind hinner (settles_lift hstep)

theorem Takes.settles (h : Takes setting s items xs s') :
    Settles ((Token.readEach (ofToken setting) items).run s) (xs, s') := by
  induction h with
  | nil s => exact .inl rfl
  | leaf h _ ih =>
    rw [Token.readEach_cons]
    exact .bind (.inl h) (.bind ih (.inl rfl))
  | @group before tokens tail s t s' x items xs inner _ ht _ hstep hplaced _ ihinner ih =>
    have hgroup : Settles ((ofToken setting (.group [] tokens tail) before).run s) (x, t) :=
      .bind (settles_ofGroup ht (settles_slots ihinner) hstep) (settles_lift hplaced)
    rw [Token.readEach_cons]
    exact .bind hgroup (.bind ih (.inl rfl))

theorem sequenced_read (setting : Setting) (source : Text) :
    Token.Sequenced (Token.readWith checkLeaf Kind.symbols source) Token.Within
      (fun tokens => ∃ steps presets, Takes setting .empty (Token.inPlace tokens) steps presets)
      (fun tokens j => tokens ≠ [] ∧ Takes setting .empty (Token.inPlace tokens) j.steps j.presets)
      (read setting source) := by
  apply Token.sequenced_of_alternates
  · exact fun level hl => Token.eq_nil_of_within hl
  · intro j h
    obtain ⟨tokens, steps, presets, hne, ht, hr, rfl⟩ := read_cases h
    obtain ⟨htakes, hlevels⟩ := takes_of_slots (traced_tokens tokens) hr
    exact ⟨tokens, ht, ⟨hne, htakes⟩, .inr hlevels⟩
  · rintro tokens ht hne ⟨steps, presets, htakes⟩ e he
    rcases error_or_exists_of_bind_eq_error he with he | ⟨tokens', ht', he⟩
    · cases ht.symm.trans he
    obtain rfl : tokens = tokens' := Except.ok.inj (ht.symm.trans ht')
    obtain ⟨token, rest, rfl⟩ := List.exists_cons_of_ne_nil hne
    rcases error_or_exists_of_bind_eq_error
      (x := (Slot.itemsAfter none (slots setting (token :: rest))).run .empty) he
        with he | ⟨p, -, he⟩
    · exact (settles_slots htakes.settles).onlyCombinators e he
    · cases he

end QueryShorthand.Join
