import QueryShorthand.Join.Compile
import QueryShorthand.Proofs.Join.Reading
import QueryShorthand.Proofs.Operand.Names
import QueryShorthand.Proofs.Token.Marks

/-! Where operators, brackets and preset instances stand in a join that was read. -/
namespace QueryShorthand.Join

/-- The sequences of a join: the whole one, and at any depth those in the parentheses of a step. -/
inductive Sequence : List Step → List Step → Prop where
  | whole (steps : List Step) : Sequence steps steps
  | inside {kind : Option Kind} {bracket : Option Bracket} {steps inner level : List Step}
      (hm : .mk kind (.group inner) bracket ∈ steps) (h : Sequence inner level) :
      Sequence steps level

/-- The first step stands alone. Each other one has an operator, and a bracket unless it is cross
joined. The steps name their tables, and the instances serve their presets. -/
structure WellPlaced (presets : Bindings Preset) (steps : List Step) : Prop where
  ne_nil : steps ≠ []
  first : ∀ s, steps.head? = some s → s.kind = none ∧ s.bracket = none
  joined : ∀ s ∈ steps.tail, ∃ k, s.kind = some k ∧ (s.bracket = none ↔ k = .cross)
  condition : ∀ s ∈ steps, ∀ c, s.bracket = some (.condition c) → c.isEmpty = false
  named : ∀ s ∈ steps, ∀ name tableAlias, s.source = .table name tableAlias → name ≠ []
  served : ∀ s ∈ steps, ∀ table tableAlias preset, s.source = .preset table tableAlias preset →
    ∃ p, presets.get? tableAlias = some p ∧ p.name = preset

/-- Each alias that has an instance keeps one of the same preset. -/
def Grows (before after : Bindings Preset) : Prop :=
  ∀ a p, before.get? a = some p → ∃ p', after.get? a = some p' ∧ p'.name = p.name

/-- Reading only adds instances, and `R` holds of the instances it leaves and of its result. -/
def Ensures {α : Type} (R : Bindings Preset → α → Prop) (x : Reading α) : Prop :=
  ∀ s a s', x.run s = .ok (a, s') → Grows s s' ∧ R s' a

def Stable {α : Type} (R : Bindings Preset → α → Prop) : Prop :=
  ∀ s s' a, Grows s s' → R s a → R s' a

theorem Grows.refl (s : Bindings Preset) : Grows s s := fun _ p h => ⟨p, h, rfl⟩

theorem Grows.trans {s t u : Bindings Preset} (h : Grows s t) (h' : Grows t u) : Grows s u := by
  intro a p hp
  obtain ⟨q, hq, hname⟩ := h a p hp
  obtain ⟨r, hr, hname'⟩ := h' a q hq
  exact ⟨r, hr, hname'.trans hname⟩

theorem grows_insert {s : Bindings Preset} {a : Text} {p : Preset}
    (h : ∀ q, s.get? a = some q → p.name = q.name) : Grows s (s.insert a p) := by
  intro b q hq
  rw [Bindings.get?_insert]
  by_cases hb : b = a
  · subst hb
    exact ⟨p, if_pos rfl, h q hq⟩
  · exact ⟨q, by rw [if_neg hb, hq], rfl⟩

namespace Ensures

variable {α β : Type} {Q : Bindings Preset → α → Prop} {R : Bindings Preset → β → Prop}
  {x : Reading α}

theorem pure {a : α} (h : ∀ s, Q s a) : Ensures Q (pure a : Reading α) := by
  intro s b s' hr
  cases hr
  exact ⟨.refl s, h s⟩

theorem throw (e : Error) : Ensures Q (throw e : Reading α) := by
  intro s a s' hr
  cases hr

theorem lift {y : Except Error α} (h : ∀ a, y = .ok a → ∀ s, Q s a) :
    Ensures Q (liftM y : Reading α) := by
  intro s a s' hr
  obtain ⟨ha, rfl⟩ := eq_ok_of_run_lift hr
  exact ⟨.refl _, h a ha _⟩

theorem bind {f : α → Reading β} (hQ : Stable Q) (hx : Ensures Q x)
    (hf : ∀ a, Ensures (fun s b => Q s a → R s b) (f a)) : Ensures R (x >>= f) := by
  intro s b s'' hr
  obtain ⟨a, s', ha, hb⟩ := exists_of_run_bind hr
  obtain ⟨hs, hq⟩ := hx s a s' ha
  obtain ⟨hs', hr⟩ := hf a s' b s'' hb
  exact ⟨hs.trans hs', hr (hQ s' s'' a hs' hq)⟩

theorem weaken {P : Bindings Preset → α → Prop} (h : Ensures Q x) (hP : ∀ s a, Q s a → P s a) :
    Ensures P x := by
  intro s a s' hr
  obtain ⟨hs, hq⟩ := h s a s' hr
  exact ⟨hs, hP s' a hq⟩

theorem itemsAfter {T : Option Text → Bindings Preset → α → Prop} (hT : ∀ b, Stable (T b))
    {before : Option Text} {slots : List (Slot (Reading α))}
    (h : ∀ read, .item read ∈ slots → ∀ b, Ensures (T b) (read b)) :
    Ensures (fun s xs => ∃ x rest, xs = x :: rest ∧ T before s x ∧
      ∀ y ∈ rest, ∃ m, .mark m ∈ slots ∧ T (some m) s y) (Slot.itemsAfter before slots) := by
  fun_induction Slot.itemsAfter before slots with
  | case1 => exact throw _
  | case2 => exact throw _
  | case3 before read rest ih =>
    refine bind (hT before) (h read List.mem_cons_self before) fun x => ?_
    cases rest with
    | nil => exact pure fun s hx => ⟨x, [], rfl, hx, by simp⟩
    | cons slot rest' => cases slot with
      | item _ => exact throw _
      | mark m =>
        have hrest := ih fun r hr => h r (List.mem_cons_of_mem _ (List.mem_cons_of_mem _ hr))
        refine bind ?_ hrest fun xs => pure ?_
        · rintro s s' xs hs ⟨y, ys, rfl, hy, hys⟩
          refine ⟨y, ys, rfl, hT _ s s' y hs hy, fun z hz => ?_⟩
          obtain ⟨n, hn, hz⟩ := hys z hz
          exact ⟨n, hn, hT _ s s' z hs hz⟩
        · rintro s ⟨y, ys, rfl, hy, hys⟩ hx
          refine ⟨x, y :: ys, rfl, hx, List.forall_mem_cons.2 ⟨⟨m, by simp, hy⟩, fun z hz => ?_⟩⟩
          obtain ⟨n, hn, hz⟩ := hys z hz
          exact ⟨n, List.mem_cons_of_mem _ (List.mem_cons_of_mem _ hn), hz⟩

end Ensures

/-- What a source of a well placed step is, and what is inside it. -/
def Source.Settled (presets : Bindings Preset) : Source → Prop
  | .table name _ => name ≠ []
  | .preset _ tableAlias name => ∃ p, presets.get? tableAlias = some p ∧ p.name = name
  | .group steps => ∀ level, Sequence steps level → WellPlaced presets level

structure Stands (before : Option Text) (presets : Bindings Preset) (s : Step) : Prop where
  kind : s.kind = before.bind Kind.ofSymbol?
  first : before = none → s.bracket = none
  joined : before ≠ none → ∀ k, s.kind = some k → (s.bracket = none ↔ k = .cross)
  condition : ∀ c, s.bracket = some (.condition c) → c.isEmpty = false
  settled : s.source.Settled presets

theorem WellPlaced.grows {s s' : Bindings Preset} {steps : List Step} (hs : Grows s s')
    (h : WellPlaced s steps) : WellPlaced s' steps where
  ne_nil := h.ne_nil
  first := h.first
  joined := h.joined
  condition := h.condition
  named := h.named
  served step hm table tableAlias preset hsource := by
    obtain ⟨p, hp, hname⟩ := h.served step hm table tableAlias preset hsource
    obtain ⟨p', hp', hname'⟩ := hs tableAlias p hp
    exact ⟨p', hp', hname'.trans hname⟩

theorem stable_settled : Stable fun s (source : Source) => source.Settled s := by
  intro s s' source hs h
  cases source with
  | table name tableAlias => exact h
  | preset table tableAlias preset =>
    obtain ⟨p, hp, hname⟩ := h
    obtain ⟨p', hp', hname'⟩ := hs tableAlias p hp
    exact ⟨p', hp', hname'.trans hname⟩
  | group steps => exact fun level hl => (h level hl).grows hs

theorem stable_stands (before : Option Text) : Stable (Stands before) := by
  intro s s' step hs h
  exact { h with settled := stable_settled s s' step.source hs h.settled }

theorem wellPlaced_of_stands {presets : Bindings Preset} {s : Step} {rest level : List Step}
    (hs : Stands none presets s)
    (hrest : ∀ r ∈ rest, ∃ m ∈ Kind.symbols, Stands (some m) presets r)
    (h : Sequence (s :: rest) level) : WellPlaced presets level := by
  have settled : ∀ r ∈ s :: rest, r.source.Settled presets ∧
      ∀ c, r.bracket = some (.condition c) → c.isEmpty = false := by
    refine List.forall_mem_cons.2 ⟨⟨hs.settled, hs.condition⟩, fun r hr => ?_⟩
    obtain ⟨m, -, hr⟩ := hrest r hr
    exact ⟨hr.settled, hr.condition⟩
  cases h with
  | whole =>
    constructor
    · simp
    · rintro r hr
      cases hr
      exact ⟨hs.kind, hs.first rfl⟩
    · intro r hr
      obtain ⟨m, hm, hr⟩ := hrest r hr
      obtain ⟨k, -, rfl⟩ := List.mem_map.1 hm
      have hkind : r.kind = some k := hr.kind.trans (Kind.ofSymbol?_symbol k)
      exact ⟨k, hkind, hr.joined (by simp) k hkind⟩
    · intro r hr
      exact (settled r hr).2
    · intro r hr name tableAlias hsource
      have hname := (settled r hr).1
      rw [hsource] at hname
      exact hname
    · intro r hr table tableAlias preset hsource
      have hserved := (settled r hr).1
      rw [hsource] at hserved
      exact hserved
  | inside hm h => exact (settled _ hm).1 level h

theorem condition_of_read {t : Text} {c : Condition} (h : Bracket.read t = .ok (.condition c)) :
    c.isEmpty = false := by
  unfold Bracket.read at h
  split at h
  · obtain ⟨c', -, h⟩ := exists_of_bind_eq_ok h
    split at h
    · cases h
    · next hne =>
      cases h
      simpa using hne
  · obtain ⟨_, -, h⟩ := exists_of_map_eq_ok h
    cases h
  · split at h
    · obtain ⟨_, -, h⟩ := exists_of_map_eq_ok h
      cases h
    · obtain ⟨_, -, h⟩ := exists_of_map_eq_ok h
      cases h

theorem bracket_of_placed {written : Text} {s s' : Step} {k : Kind}
    (h : placed false written s = .ok s') (hk : s.kind = some k) :
    s.bracket = none ↔ k = .cross := by
  obtain ⟨kind, source, bracket⟩ := s
  cases hk
  cases bracket with
  | none =>
    cases k <;> cases h
    simp [Step.bracket]
  | some b => cases k <;> cases h <;> simp [Step.bracket]

theorem stands_of_placed {before : Option Text} {presets : Bindings Preset} {source : Source}
    {bracket : Option Text} {written : Text} {s s' : Step} (hsource : source.Settled presets)
    (hs : step (before.bind Kind.ofSymbol?) source bracket = .ok s)
    (hp : placed before.isNone written s = .ok s') : Stands before presets s' := by
  obtain rfl := eq_of_placed hp
  have built : s'.kind = before.bind Kind.ofSymbol? ∧ s'.source = source ∧
      ∀ c, s'.bracket = some (.condition c) → c.isEmpty = false := by
    unfold step at hs
    split at hs
    · cases hs
      exact ⟨rfl, rfl, fun c hc => by cases hc⟩
    · obtain ⟨b, hb, rfl⟩ := exists_of_map_eq_ok hs
      refine ⟨rfl, rfl, fun c hc => condition_of_read (hb.trans ?_)⟩
      rw [Option.some.inj hc]
  obtain ⟨hkind, rfl, hcondition⟩ := built
  constructor
  · exact hkind
  · rintro rfl
    cases hb : s'.bracket with
    | none => rfl
    | some b => simp [placed, hb] at hp
  · intro hbefore k hk
    obtain ⟨m, rfl⟩ := Option.ne_none_iff_exists'.1 hbefore
    exact bracket_of_placed hp hk
  · exact hcondition
  · exact hsource

variable {setting : Setting}

theorem ensures_configure (name table tableAlias : Text) (args : List Text) :
    Ensures (fun s _ => ∃ p, s.get? tableAlias = some p ∧ p.name = name)
      (configure setting name table tableAlias args) := by
  intro s a s' hr
  obtain ⟨_, _, ⟨⟩, hr⟩ := exists_of_run_bind hr
  obtain ⟨p, hp, hr⟩ := exists_of_run_lift_bind hr
  obtain ⟨c, hc, hr⟩ := exists_of_run_lift_bind hr
  cases hr
  have hname : c.name = p.name := by
    obtain ⟨_, -, hc⟩ := exists_of_bind_eq_ok hc
    cases hc
    rfl
  have hpreset : p.name = name ∧ ∀ q, s.get? tableAlias = some q → p.name = q.name := by
    unfold instanceFor at hp
    split at hp
    · next q hq =>
      split at hp
      · next hn =>
        cases hp
        refine ⟨hn, fun r hr => ?_⟩
        rw [hq] at hr
        cases hr
        rfl
      · cases hp
    · next hnone =>
      unfold Preset.Registry.instantiate at hp
      split at hp
      · cases hp
        exact ⟨rfl, fun r hr => by simp [hnone] at hr⟩
      · cases hp
  constructor
  · exact grows_insert fun q hq => hname.trans (hpreset.2 q hq)
  · exact ⟨c, by rw [Bindings.get?_insert, if_pos rfl], hname.trans hpreset.1⟩

theorem table_ne_nil {t : Text} {leaf : Leaf} (h : Leaf.read? t = some leaf) : leaf.table ≠ [] := by
  simp only [Leaf.read?, Option.bind_eq_bind, Option.bind_eq_some_iff] at h
  obtain ⟨⟨table, r⟩, hr, bracket, -, h⟩ := h
  cases h
  exact Name.ne_nil_of_read? hr

theorem ensures_leafSource {t : Text} {leaf : Leaf} (h : Leaf.read? t = some leaf) :
    Ensures (fun s source => source.Settled s) (leafSource setting leaf) := by
  unfold leafSource
  split
  · exact .pure fun _ => show leaf.table ≠ [] from table_ne_nil h
  · refine .bind (Q := fun _ _ => True) (fun _ _ _ _ _ => trivial) (.lift fun _ _ _ => trivial)
      fun args => ?_
    refine .bind ?_ (ensures_configure _ _ _ args) fun _ => .pure fun s hserved _ => hserved
    rintro s s' _ hs ⟨p, hp, hname⟩
    obtain ⟨p', hp', hname'⟩ := hs _ p hp
    exact ⟨p', hp', hname'.trans hname⟩

theorem ensures_leaf (before : Option Text) (t : Text) :
    Ensures (Stands before) (do
      let s ← ofLeaf setting (before.bind Kind.ofSymbol?) t
      placed before.isNone t s : Reading Step) := by
  unfold ofLeaf
  cases hl : Leaf.read? t with
  | none => exact .throw _
  | some leaf =>
    simp only [bind_assoc]
    refine .bind stable_settled (ensures_leafSource hl) fun source => ?_
    refine .bind (Q := fun _ s => step (before.bind Kind.ofSymbol?) source leaf.bracket = .ok s)
      (fun _ _ _ _ h => h) (.lift fun s hs _ => hs) fun s => .lift fun s' hp _ hs hsource => ?_
    exact stands_of_placed hsource hs hp

theorem ensures_group {inner : List (Slot (Reading Step))}
    (hinner : Ensures (fun presets steps => ∀ level, Sequence steps level →
      WellPlaced presets level) (Slot.itemsAfter none inner))
    (before : Option Text) (written lead tail : Text) :
    Ensures (Stands before) (do
      let s ← ofGroup (before.bind Kind.ofSymbol?) written lead tail inner
      placed before.isNone written s : Reading Step) := by
  unfold ofGroup
  split
  · exact .throw _
  · simp only [bind_assoc]
    refine .bind ?_ hinner fun steps => ?_
    · intro s s' steps hs h level hl
      exact (h level hl).grows hs
    · refine .bind (Q := fun _ s => step (before.bind Kind.ofSymbol?) (.group steps)
        (if tail = [] then none else some tail) = .ok s)
          (fun _ _ _ _ h => h) (.lift fun s hs _ => hs) ?_
      exact fun s => .lift fun s' hp _ hs hsteps =>
        stands_of_placed (show (Source.group steps).Settled _ from hsteps) hs hp

theorem mark_mem_slots {m : Text} {tokens : List Token} (h : .mark m ∈ slots setting tokens) :
    .combinator m ∈ tokens := by
  induction tokens with
  | nil => cases h
  | cons token tokens ih =>
    rw [slots] at h
    rcases List.mem_cons.1 h with h | h
    · cases token <;> cases h
      exact List.mem_cons_self
    · exact List.mem_cons_of_mem _ (ih h)

theorem ensures_sequence {tokens : List Token}
    (hmarks : ∀ m ∈ Token.combinatorsAll tokens, m ∈ Kind.symbols)
    (h : ∀ read, .item read ∈ slots setting tokens → ∀ b, Ensures (Stands b) (read b)) :
    Ensures (fun presets steps => ∀ level, Sequence steps level → WellPlaced presets level)
      (Slot.itemsAfter none (slots setting tokens)) := by
  refine (Ensures.itemsAfter stable_stands h).weaken ?_
  rintro presets _ ⟨s, rest, rfl, hs, hrest⟩ level hl
  refine wellPlaced_of_stands hs (fun r hr => ?_) hl
  obtain ⟨m, hm, hr⟩ := hrest r hr
  exact ⟨m, hmarks m (Token.mem_combinatorsAll (mark_mem_slots hm)), hr⟩

mutual

theorem ensures_slot : ∀ (token : Token), (∀ m ∈ token.combinators, m ∈ Kind.symbols) →
    ∀ {read : Option Text → Reading Step}, slot setting token = .item read →
    ∀ b, Ensures (Stands b) (read b)
  | .combinator s, _, _, h, _ => by
    rw [slot] at h
    cases h
  | .leaf t, _, _, h, b => by
    rw [slot] at h
    cases h
    exact ensures_leaf b t
  | .group lead tokens tail, hmarks, _, h, b => by
    rw [slot] at h
    cases h
    rw [Token.combinators] at hmarks
    exact ensures_group (ensures_sequence hmarks fun read hm => ensures_slots tokens hmarks hm) b _
      lead tail

theorem ensures_slots :
    ∀ (tokens : List Token), (∀ m ∈ Token.combinatorsAll tokens, m ∈ Kind.symbols) →
    ∀ {read : Option Text → Reading Step}, .item read ∈ slots setting tokens →
    ∀ b, Ensures (Stands b) (read b)
  | [], _, _, hm, _ => by cases hm
  | token :: tokens, hmarks, _, hm, b => by
    rw [Token.combinatorsAll, List.forall_mem_append] at hmarks
    rw [slots] at hm
    rcases List.mem_cons.1 hm with hm | hm
    · exact ensures_slot token hmarks.1 hm.symm b
    · exact ensures_slots tokens hmarks.2 hm b

end

theorem wellPlaced_of_read {source : Text} {j : Join} (h : read setting source = .ok j)
    {level : List Step} (hl : Sequence j.steps level) : WellPlaced j.presets level := by
  obtain ⟨tokens, steps, presets, -, htokens, hr, rfl⟩ := read_cases h
  have hmarks := Token.mem_of_readWith htokens
  have hslots : ∀ read, .item read ∈ slots setting tokens → ∀ b, Ensures (Stands b) (read b) :=
    fun _ hm => ensures_slots _ hmarks hm
  exact (ensures_sequence hmarks hslots _ _ _ hr).2 level hl

end QueryShorthand.Join
