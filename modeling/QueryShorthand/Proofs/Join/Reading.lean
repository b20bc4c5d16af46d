import QueryShorthand.Join.Compile
import QueryShorthand.Join.Reader
import QueryShorthand.Proofs.Agreement

/-! Reading a join carries the preset instances along. Without registered presets there are none. -/
namespace QueryShorthand.Join

theorem exists_of_run_bind {α β : Type} {x : Reading α} {f : α → Reading β} {s s' : Bindings Preset}
    {b : β} (h : (x >>= f).run s = .ok (b, s')) :
    ∃ a t, x.run s = .ok (a, t) ∧ (f a).run t = .ok (b, s') := by
  obtain ⟨⟨a, t⟩, ha, hb⟩ := exists_of_bind_eq_ok (x := x.run s) h
  exact ⟨a, t, ha, hb⟩

theorem run_bind_error {α β : Type} {s : Bindings Preset} {x : Reading α} {f : α → Reading β}
    {e : Error} (h : x.run s = .error e) : (x >>= f).run s = .error e := by
  rw [StateT.run_bind, h]
  rfl

theorem run_bind_ok {α β : Type} {s t : Bindings Preset} {x : Reading α} {f : α → Reading β} {a : α}
    (h : x.run s = .ok (a, t)) : (x >>= f).run s = (f a).run t := by
  rw [StateT.run_bind, h]
  rfl

theorem eq_ok_of_run_lift {α : Type} {y : Except Error α} {s s' : Bindings Preset} {a : α}
    (h : (liftM y : Reading α).run s = .ok (a, s')) : y = .ok a ∧ s' = s := by
  obtain ⟨b, hb, h⟩ := exists_of_bind_eq_ok (x := y) h
  cases h
  exact ⟨hb, rfl⟩

theorem exists_of_run_lift_bind {α β : Type} {y : Except Error α} {f : α → Reading β}
    {s s' : Bindings Preset} {b : β} (h : (liftM y >>= f : Reading β).run s = .ok (b, s')) :
    ∃ a, y = .ok a ∧ (f a).run s = .ok (b, s') := by
  obtain ⟨a, t, ha, hb⟩ := exists_of_run_bind h
  obtain ⟨hy, rfl⟩ := eq_ok_of_run_lift ha
  exact ⟨a, hy, hb⟩

/-- Run where `P` holds of the instances, `x` leaves instances that `P` holds of and gives a result
that `Q` holds of. -/
def Keeps (P : Bindings Preset → Prop) {α : Type} (Q : α → Prop) (x : Reading α) : Prop :=
  ∀ s a s', P s → x.run s = .ok (a, s') → P s' ∧ Q a

namespace Keeps

variable {P : Bindings Preset → Prop} {α β : Type} {Q : α → Prop} {R : β → Prop} {x : Reading α}

theorem pure {a : α} (h : Q a) : Keeps P Q (pure a : Reading α) := by
  intro s b s' hs hr
  cases hr
  exact ⟨hs, h⟩

theorem throw (e : Error) : Keeps P Q (throw e : Reading α) := by
  intro s a s' _ hr
  cases hr

theorem lift {y : Except Error α} (h : ∀ a, y = .ok a → Q a) : Keeps P Q (liftM y : Reading α) := by
  intro s a s' hs hr
  obtain ⟨ha, rfl⟩ := eq_ok_of_run_lift hr
  exact ⟨hs, h a ha⟩

theorem bind {f : α → Reading β} (hx : Keeps P Q x) (hf : ∀ a, Q a → Keeps P R (f a)) :
    Keeps P R (x >>= f) := by
  intro s b s' hs hr
  obtain ⟨a, t, ha, hb⟩ := exists_of_run_bind hr
  obtain ⟨ht, hq⟩ := hx s a t hs ha
  exact hf a hq t b s' ht hb

theorem itemsAfter {before : Option Text} {slots : List (Slot (Reading α))}
    (h : ∀ read, Slot.item read ∈ slots → ∀ b, Keeps P Q (read b)) :
    Keeps P (fun as => ∀ a ∈ as, Q a) (Slot.itemsAfter before slots) := by
  fun_induction Slot.itemsAfter before slots with
  | case1 => exact .throw _
  | case2 => exact .throw _
  | case3 before read rest ih =>
    refine (h read List.mem_cons_self before).bind fun a ha => ?_
    match rest with
    | [] => exact .pure (by simpa using ha)
    | .mark s :: rest' =>
      have hrest : ∀ r, Slot.item r ∈ rest' → ∀ b, Keeps P Q (r b) := fun r hr =>
        h r (List.mem_cons_of_mem _ (List.mem_cons_of_mem _ hr))
      exact (ih hrest).bind fun as has => .pure (by simpa using ⟨ha, has⟩)
    | .item _ :: _ => exact .throw _

end Keeps

theorem read_cases {setting : Setting} {source : Text} {j : Join}
    (h : read setting source = .ok j) :
    ∃ tokens steps presets, tokens ≠ [] ∧
    Token.readWith checkLeaf Kind.symbols source = .ok tokens ∧
      (Slot.itemsAfter none (slots setting tokens)).run .empty = .ok (steps, presets) ∧
      j = { source, steps, presets } := by
  obtain ⟨tokens, ht, h⟩ := exists_of_bind_eq_ok h
  cases tokens with
  | nil => cases h
  | cons token rest =>
    obtain ⟨⟨steps, presets⟩, hr, h⟩ := exists_of_bind_eq_ok
      (x := (Slot.itemsAfter none (slots setting (token :: rest))).run .empty) h
    cases h
    exact ⟨token :: rest, steps, presets, List.cons_ne_nil _ _, ht, hr, rfl⟩

def Bracket.conditions : Bracket → List Condition
  | .condition c => [c]
  | _ => []

mutual

def Source.conditions : Source → List Condition
  | .group steps => conditionsOf steps
  | _ => []

def conditionsOf : List Step → List Condition
  | [] => []
  | .mk _ source bracket :: rest =>
    source.conditions ++ (bracket.elim [] Bracket.conditions ++ conditionsOf rest)

end

def conditions (j : Join) : List Condition := conditionsOf j.steps

theorem mem_conditionsOf {steps : List Step} {c : Condition} :
    c ∈ conditionsOf steps ↔
      ∃ s ∈ steps, c ∈ s.source.conditions ∨ c ∈ s.bracket.elim [] Bracket.conditions := by
  induction steps with
  | nil => simp [conditionsOf]
  | cons s steps ih =>
    obtain ⟨kind, source, bracket⟩ := s
    simp [conditionsOf, ih, Step.source, Step.bracket, or_assoc]

def ReadIn (s : Step) : Prop :=
  ∀ c, c ∈ s.source.conditions ∨ c ∈ s.bracket.elim [] Bracket.conditions →
    ∃ source, Condition.read source = .ok c

theorem readIn_bracket {t : Text} {b : Bracket} (h : Bracket.read t = .ok b) :
    ∀ c ∈ b.conditions, ∃ source, Condition.read source = .ok c := by
  unfold Bracket.read at h
  split at h
  · next source _ =>
    obtain ⟨c, hc, h⟩ := exists_of_bind_eq_ok h
    split at h
    · cases h
    · cases h
      intro c' hm
      exact ⟨source, by rw [List.mem_singleton.1 hm, hc]⟩
  · obtain ⟨_, -, rfl⟩ := exists_of_map_eq_ok h
    simp [Bracket.conditions]
  · split at h
    · obtain ⟨_, -, rfl⟩ := exists_of_map_eq_ok h
      simp [Bracket.conditions]
    · obtain ⟨_, -, rfl⟩ := exists_of_map_eq_ok h
      simp [Bracket.conditions]

theorem readIn_of_step {kind : Option Kind} {source : Source} {bracket : Option Text} {s : Step}
    (hs : ∀ c ∈ source.conditions, ∃ t, Condition.read t = .ok c)
    (h : step kind source bracket = .ok s) : ReadIn s := by
  rintro c (hc | hc)
  all_goals
    unfold step at h
    split at h
    · cases h
      first | exact hs c hc | simp [Step.bracket] at hc
    · obtain ⟨b, hb, rfl⟩ := exists_of_map_eq_ok h
      first | exact readIn_bracket hb c hc | exact hs c hc

theorem eq_of_placed {first : Bool} {written : Text} {s s' : Step}
    (h : placed first written s = .ok s') : s' = s := by
  unfold placed at h
  split at h <;> cases h <;> rfl

theorem keeps_ofGroup {kind : Option Kind} {written lead tail : Text}
    {inner : List (Slot (Reading Step))}
    (h : ∀ read, Slot.item read ∈ inner → ∀ b, Keeps (· = .empty) ReadIn (read b)) :
    Keeps (· = .empty) ReadIn (ofGroup kind written lead tail inner) := by
  unfold ofGroup
  split
  · exact .throw _
  · refine (Keeps.itemsAfter h).bind fun steps hs => .lift fun s hstep => ?_
    refine readIn_of_step (fun c hc => ?_) hstep
    obtain ⟨s, hm, hc⟩ := mem_conditionsOf.1 hc
    exact hs s hm c hc

section

variable {setting : Setting} (hreg : setting.registry = .empty)

include hreg

theorem instanceFor_ne_ok {name table tableAlias : Text} {p : Preset} :
    instanceFor setting .empty name table tableAlias ≠ .ok p := by
  intro h
  rw [instanceFor, Bindings.get?_empty, Preset.Registry.instantiate, hreg, Bindings.get?_empty] at h
  cases h

/-- A preset is refused where none is registered and no instance was made before. -/
theorem keeps_configure (name table tableAlias : Text) (args : List Text) :
    Keeps (· = .empty) (fun _ => False) (configure setting name table tableAlias args) := by
  rintro _ a s' rfl hr
  obtain ⟨⟨p, s⟩, hp, -⟩ := exists_of_bind_eq_ok hr
  obtain ⟨p', hp', -⟩ := exists_of_bind_eq_ok hp
  exact absurd hp' (instanceFor_ne_ok hreg)

theorem keeps_leafSource (leaf : Leaf) :
    Keeps (· = .empty) (fun source => source.conditions = []) (leafSource setting leaf) := by
  unfold leafSource
  split
  · exact .pure rfl
  · refine (Keeps.lift (Q := fun _ => True) fun _ _ => trivial).bind fun args _ => ?_
    exact (keeps_configure hreg _ _ _ args).bind fun _ h => h.elim

theorem keeps_ofLeaf (kind : Option Kind) (t : Text) :
    Keeps (· = .empty) ReadIn (ofLeaf setting kind t) := by
  unfold ofLeaf
  split
  · exact .throw _
  · refine (keeps_leafSource hreg _).bind fun source hs => .lift fun s h => ?_
    exact readIn_of_step (by simp [hs]) h

omit hreg in
mutual

theorem keeps_slot (hleaf : ∀ kind t, Keeps (· = .empty) ReadIn (ofLeaf setting kind t)) :
    ∀ (token : Token) {read : Option Text → Reading Step},
      slot setting token = .item read → ∀ b, Keeps (· = .empty) ReadIn (read b)
  | .combinator s, _, h, _ => by
    rw [slot] at h
    cases h
  | .leaf t, _, h, _ => by
    rw [slot] at h
    cases h
    refine (hleaf _ t).bind fun s hs => .lift fun s' h => ?_
    rwa [eq_of_placed h]
  | .group lead tokens tail, _, h, _ => by
    rw [slot] at h
    cases h
    refine (keeps_ofGroup fun read hm b => keeps_slots hleaf tokens hm b).bind fun s hs =>
      .lift fun s' h => ?_
    rwa [eq_of_placed h]

theorem keeps_slots (hleaf : ∀ kind t, Keeps (· = .empty) ReadIn (ofLeaf setting kind t)) :
    ∀ (tokens : List Token) {read : Option Text → Reading Step},
      .item read ∈ slots setting tokens → ∀ b, Keeps (· = .empty) ReadIn (read b)
  | [], _, hm, _ => by simp [slots] at hm
  | token :: tokens, _, hm, b => by
    rw [slots] at hm
    rcases List.mem_cons.1 hm with hm | hm
    · exact keeps_slot hleaf token hm.symm b
    · exact keeps_slots hleaf tokens hm b

end

theorem plain_of_read {source : Text} {j : Join} (h : read setting source = .ok j) :
    j.subqueries = .empty ∧ j.presets = .empty ∧
      ∀ c ∈ j.conditions, ∃ t, Condition.read t = .ok c := by
  obtain ⟨tokens, steps, presets, -, -, hr, rfl⟩ := read_cases h
  have hk : Keeps (· = .empty) (fun as => ∀ a ∈ as, ReadIn a)
      (Slot.itemsAfter none (slots setting tokens)) :=
    .itemsAfter fun read hm b => keeps_slots (keeps_ofLeaf hreg) _ hm b
  obtain ⟨hp, hs⟩ := hk _ _ _ rfl hr
  refine ⟨rfl, hp, fun c hc => ?_⟩
  obtain ⟨s, hm, hc⟩ := mem_conditionsOf.1 hc
  exact hs s hm c hc

end

end QueryShorthand.Join
