import QueryShorthand.Proofs.Text.Trim
import QueryShorthand.Proofs.Token.Hook

/-! Texts that are joined, by a delimiter or by parentheses, and their tokens. -/
namespace QueryShorthand

def Token.Begins (c : Char) : Token → Prop
  | leaf t => t.head? = some c
  | combinator s => s.head? = some c
  | group lead _ _ => lead.head? = some c

namespace Level

def Begins (c : Char) (level : Level) : Prop :=
  (∃ x xs, level.tokens = x :: xs ∧ x.Begins c) ∨ level.tokens = [] ∧
    (level.group = none ∧ level.text.head? = some c ∨
      ∃ lead inner, level.group = some (lead, inner) ∧ lead.head? = some c)

theorem begins_complete {c : Char} {level : Level} (hb : isBlank c = false) (h : level.Begins c) :
    ∃ x xs, level.complete = x :: xs ∧ x.Begins c := by
  rcases h with ⟨x, xs, ht, hx⟩ | ⟨ht, ⟨hg, hc⟩ | ⟨lead, inner, hg, hc⟩⟩
  · exact ⟨x, xs ++ level.last, by rw [complete, ht, List.cons_append], hx⟩
  · obtain ⟨r, hr⟩ := List.head?_eq_some_iff.1 hc
    have htrim : level.text.trim = c :: Text.trimEnd r := by rw [hr, Text.trim_cons hb]
    refine ⟨.leaf (c :: Text.trimEnd r), [], ?_, rfl⟩
    simp [complete, last, ht, hg, htrim]
  · refine ⟨.group lead inner level.text.trim, [], ?_, hc⟩
    simp [complete, last, ht, hg]

/-- A relation between levels that reading on keeps. -/
structure Simulation (R : Level → Level → Prop) : Prop where
  group : ∀ {l l' : Level}, R l l' → l.group = none → l'.group = none
  add : ∀ {l l' : Level} (t : Text), R l l' → R (l.add t) (l'.add t)
  combine : ∀ {l l' : Level} (m : Text), R l l' →
    R { tokens := l.complete ++ [.combinator m] } { tokens := l'.complete ++ [.combinator m] }
  close : ∀ {l l' : Level} (inner : List Token), R l l' → l.group = none →
    R { tokens := l.tokens, group := some (l.text.trim, inner) }
      { tokens := l'.tokens, group := some (l'.text.trim, inner) }

def Padded (l l' : Level) : Prop :=
  l'.tokens = l.tokens ∧ l'.group = l.group ∧ ∃ b : Text, b.Blank ∧ l'.text = b ++ l.text

theorem Padded.trim_eq {l l' : Level} (h : Padded l l') : l'.text.trim = l.text.trim := by
  obtain ⟨-, -, b, hb, htext⟩ := h
  have hpad := Text.trim_padded (t := l.text) hb Text.blank_nil
  rwa [List.append_nil, ← htext] at hpad

theorem Padded.complete_eq {l l' : Level} (h : Padded l l') : l'.complete = l.complete := by
  simp only [complete, last, h.1, h.2.1, h.trim_eq]

theorem simulation_padded : Simulation Padded := by
  constructor
  · rintro l l' ⟨-, hg', -⟩ hg
    rw [hg', hg]
  · rintro l l' u ⟨ht, hg, b, hb, htext⟩
    exact ⟨ht, hg, b, hb, by simp [add, htext]⟩
  · intro l l' m h
    rw [h.complete_eq]
    exact ⟨rfl, rfl, [], Text.blank_nil, rfl⟩
  · intro l l' inner h _
    rw [h.1, h.trim_eq]
    exact ⟨rfl, rfl, [], Text.blank_nil, rfl⟩

end Level

namespace Cutter

variable {cutter : Cutter} {levels : List Level} {word : Bool} {c : Char} {s t : Text}
  {ts us : List Token}

namespace Scans

theorem append (hc : cutter.Single) (h : Scans cutter levels word s ts) :
    ∃ level : Level, level.complete = ts ∧ ∀ {base : List Level} {v : Text} {us : List Token},
      v.head? ≠ some '=' → v.head? ≠ some '>' → (∀ w, Scans cutter (level :: base) w v us) →
      Scans cutter (levels ++ base) word (s ++ v) us := by
  induction h with
  | @done level word => exact ⟨level, rfl, fun _ _ hv => hv word⟩
  | opened hg hl _ ih =>
    obtain ⟨level, hts, hk⟩ := ih
    exact ⟨level, hts, fun he hgt hv => .opened hg hl (hk he hgt hv)⟩
  | closed hg ho _ ih =>
    obtain ⟨level, hts, hk⟩ := ih
    exact ⟨level, hts, fun he hgt hv => .closed hg ho (hk he hgt hv)⟩
  | span hp hs _ ih =>
    obtain ⟨level, hts, hk⟩ := ih
    exact ⟨level, hts, fun he hgt hv => .span hp (span?_append hgt hs) (hk he hgt hv)⟩
  | mark hp hs hm _ ih =>
    obtain ⟨level, hts, hk⟩ := ih
    refine ⟨level, hts, fun he hgt hv => .mark hp (span?_append hgt hs) ?_ (hk he hgt hv)⟩
    exact (mark?_append (hc.apart he hgt)).trans (by rw [hm]; rfl)
  | plain hp hs hm _ ih =>
    obtain ⟨level, hts, hk⟩ := ih
    refine ⟨level, hts, fun he hgt hv => .plain hp (span?_append hgt hs) ?_ (hk he hgt hv)⟩
    exact (mark?_append (hc.apart he hgt)).trans (by rw [hm]; rfl)

/-- Another outermost level follows the one that was read, as far as it is related to it. -/
theorem simulate {R : Level → Level → Prop} (hR : Level.Simulation R)
    (h : Scans cutter levels word t ts) (inner : List Level) {outer outer' : Level}
    (hl : levels = inner ++ [outer]) (ho : R outer outer') :
    ∃ level level', R level level' ∧ level.complete = ts ∧
      Scans cutter (inner ++ [outer']) word t level'.complete := by
  induction h generalizing inner outer outer' with
  | @done level word =>
    rcases inner with _ | ⟨l, inner⟩
    · cases hl
      exact ⟨_, _, ho, rfl, .done⟩
    · simp at hl
  | @opened level levels r ts hc hg _ ih =>
    rcases inner with _ | ⟨l, inner⟩
    · cases hl
      obtain ⟨l, l', hr, hts, hk⟩ := ih [{}] rfl ho
      exact ⟨l, l', hr, hts, .opened hc (hR.group ho hg) hk⟩
    · obtain ⟨rfl, rfl⟩ := List.cons.inj hl
      obtain ⟨l, l', hr, hts, hk⟩ := ih ({} :: level :: inner) rfl ho
      exact ⟨l, l', hr, hts, .opened hc hg hk⟩
  | @closed level encl levels word r ts hc hg _ ih =>
    rcases inner with _ | ⟨l, _ | ⟨o, inner⟩⟩
    · cases hl
    · cases hl
      obtain ⟨l, l', hr, hts, hk⟩ := ih [] rfl (hR.close level.complete ho hg)
      exact ⟨l, l', hr, hts, .closed hc (hR.group ho hg) hk⟩
    · cases hl
      obtain ⟨l, l', hr, hts, hk⟩ := ih (_ :: inner) rfl ho
      exact ⟨l, l', hr, hts, .closed hc hg hk⟩
  | @span level levels word c r s r' ts hp hs _ ih =>
    rcases inner with _ | ⟨l, inner⟩
    · cases hl
      obtain ⟨l, l', hr, hts, hk⟩ := ih [] rfl (hR.add s ho)
      exact ⟨l, l', hr, hts, .span hp hs hk⟩
    · cases hl
      obtain ⟨l, l', hr, hts, hk⟩ := ih (_ :: inner) rfl ho
      exact ⟨l, l', hr, hts, .span hp hs hk⟩
  | @mark level levels word c r m r' ts hp hs hm _ ih =>
    rcases inner with _ | ⟨l, inner⟩
    · cases hl
      obtain ⟨l, l', hr, hts, hk⟩ := ih [] rfl (hR.combine m ho)
      exact ⟨l, l', hr, hts, .mark hp hs hm hk⟩
    · cases hl
      obtain ⟨l, l', hr, hts, hk⟩ := ih (_ :: inner) rfl ho
      exact ⟨l, l', hr, hts, .mark hp hs hm hk⟩
  | @plain level levels word c r ts hp hs hm _ ih =>
    rcases inner with _ | ⟨l, inner⟩
    · cases hl
      obtain ⟨l, l', hr, hts, hk⟩ := ih [] rfl (hR.add [c] ho)
      exact ⟨l, l', hr, hts, .plain hp hs hm hk⟩
    · cases hl
      obtain ⟨l, l', hr, hts, hk⟩ := ih (_ :: inner) rfl ho
      exact ⟨l, l', hr, hts, .plain hp hs hm hk⟩

theorem behind (pre : List Token) (h : Scans cutter [{}] word t ts) :
    Scans cutter [{ tokens := pre }] word t (pre ++ ts) := by
  have simulation : Level.Simulation fun l l' => l' = { l with tokens := pre ++ l.tokens } := by
    constructor
    · rintro l l' rfl hg
      exact hg
    · rintro l l' t rfl
      rfl
    · rintro l l' m rfl
      simp [Level.complete, Level.last]
    · rintro l l' inner rfl hg
      rfl
  have hpre : ({ tokens := pre } : Level) = { tokens := pre ++ [] } := by rw [List.append_nil]
  obtain ⟨l, l', rfl, rfl, hk⟩ := h.simulate simulation [] rfl hpre
  rw [Level.complete, ← List.append_assoc]
  exact hk

theorem padded {b : Text} (hb : b.Blank) (h : Scans cutter [{}] word t ts) :
    Scans cutter [{ text := b }] word t ts := by
  have hstart : Level.Padded {} { text := b } := ⟨rfl, rfl, b, hb, (List.append_nil b).symm⟩
  obtain ⟨l, l', hl, rfl, hk⟩ := h.simulate Level.simulation_padded [] rfl hstart
  rwa [hl.complete_eq] at hk

theorem joined (hc : cutter.Single) (hm : ∀ w, span? w c t = .ok none)
    (hmark : cutter.mark? (c :: t) = some ([c], t)) (hp : ∀ w, ¬ cutter.Groups w c)
    (hv : c ≠ '=' ∧ c ≠ '>') (hs : Scans cutter [{}] word s ts)
    (ht : Scans cutter [{}] false t us) :
    Scans cutter [{}] word (s ++ c :: t) (ts ++ .combinator [c] :: us) := by
  obtain ⟨level, rfl, hk⟩ := hs.append hc
  refine hk (by simpa using hv.1) (by simpa using hv.2) fun w => ?_
  refine .mark (hp w) (hm w) hmark ?_
  have hb := ht.behind (level.complete ++ [.combinator [c]])
  rwa [List.append_assoc] at hb

theorem group (hc : cutter.Single) (hg : cutter.groups = true) {lead tail : Text}
    (hs : Scans cutter [{}] false s ts)
    (htail : ∀ level : Level, Scans cutter [level] false tail (level.add tail).complete) :
    Scans cutter [{ text := lead }] false ('(' :: (s ++ ')' :: tail))
      [.group lead.trim ts tail.trim] := by
  obtain ⟨level, rfl, hk⟩ := hs.append hc
  exact .opened hg rfl (hk (by simp) (by simp) fun w => .closed hg rfl (htail _))

theorem nothing (level : Level) : Scans cutter [level] false [] (level.add []).complete := by
  obtain ⟨tokens, group, text⟩ := level
  rw [Level.add, List.append_nil]
  exact .done

theorem begins (hb : isBlank c = false) (h : Scans cutter [{ text := [c] }] word t ts) :
    ∃ x xs, ts = x :: xs ∧ x.Begins c := by
  have simulation : Level.Simulation fun l l' => l = l' ∧ l.Begins c := by
    constructor
    · rintro l l' ⟨rfl, -⟩ hg
      exact hg
    · rintro l l' s ⟨rfl, hl⟩
      refine ⟨rfl, ?_⟩
      rcases hl with hx | ⟨ht, ⟨hg, hc⟩ | hc⟩
      · exact .inl hx
      · obtain ⟨r, hr⟩ := List.head?_eq_some_iff.1 hc
        exact .inr ⟨ht, .inl ⟨hg, by simp [Level.add, hr]⟩⟩
      · exact .inr ⟨ht, .inr hc⟩
    · rintro l l' m ⟨rfl, hl⟩
      obtain ⟨x, xs, hx, hc⟩ := Level.begins_complete hb hl
      exact ⟨rfl, .inl ⟨x, xs ++ [.combinator m], by simp [hx], hc⟩⟩
    · rintro l l' inner ⟨rfl, hl⟩ hg
      refine ⟨rfl, ?_⟩
      rcases hl with hx | ⟨ht, ⟨-, hc⟩ | ⟨lead, inner', hg', -⟩⟩
      · exact .inl hx
      · obtain ⟨r, hr⟩ := List.head?_eq_some_iff.1 hc
        exact .inr ⟨ht, .inr ⟨_, _, rfl, by simp [hr, Text.trim_cons hb]⟩⟩
      · simp [hg] at hg'
  have hc : ({ text := [c] } : Level).Begins c := .inr ⟨rfl, .inl ⟨rfl, rfl⟩⟩
  obtain ⟨l, l', ⟨rfl, hl⟩, rfl, -⟩ := h.simulate simulation [] rfl ⟨rfl, hc⟩
  exact Level.begins_complete hb hl

end Scans

end Cutter

end QueryShorthand
