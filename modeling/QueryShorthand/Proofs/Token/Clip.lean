import QueryShorthand.Proofs.Token.Copy
import QueryShorthand.Proofs.Token.Spelling
import QueryShorthand.Token.Clip

/-! Clips cut at their operators. -/
namespace QueryShorthand

open Text (Thinned)

variable {cutter : Cutter} {word : Bool} {t u v x rest text : Text} {raw : List Text} {i : Nat}

/-- Reading the first text comes to the second one, and no quote, escape, bracket, arrow or argument
list begins there; `word` tells whether a word ends right before the first. -/
inductive Exposed : Bool → Text → Text → Prop where
  | here {word : Bool} {c : Char} {r : Text} (hs : span? word c r = .ok none) :
      Exposed word (c :: r) (c :: r)
  | char {word : Bool} {c : Char} {r u : Text} (hs : span? word c r = .ok none)
      (h : Exposed (endsWord c) r u) : Exposed word (c :: r) u
  | span {word : Bool} {c : Char} {r s r' u : Text} (hs : span? word c r = .ok (some (s, r')))
      (h : Exposed (lastEndsWord s) r' u) : Exposed word (c :: r) u

theorem not_exposed_backslash : ¬ Exposed word ['\\'] u := by
  intro h
  cases h with
  | here hs | char hs | span hs => cases hs

namespace Cutter

/-- In a copied text no mark begins at an exposed place, also where blanks behind it were cut
off. -/
theorem Copies.mark?_of_exposed (h : Copies cutter (x ++ v) word t) (hx : x = [] ∨ x = ['\\'])
    (hu : Exposed word (t ++ x) u) : cutter.mark? (u ++ v) = none := by
  -- read alone, the text has the spans that it had before more text, so both readings take the same
  -- steps
  induction h with
  | nil =>
    rcases hx with rfl | rfl
    · cases hu
    · exact absurd hu not_exposed_backslash
  | @plain word c r hp hs hm _ ih =>
    rw [← List.append_assoc] at hs hm
    have hcut := span?_cut (o := none) hs
    cases hu with
    | here => exact hm
    | char _ hu => exact ih hu
    | span hs' => cases hcut.symm.trans hs'
  | @span word c r s r' hp hs _ ih =>
    rw [← List.append_assoc, ← List.append_assoc] at hs
    have hcut := span?_cut (o := some (s, r' ++ x)) hs
    cases hu with
    | here hs' | char hs' => cases hcut.symm.trans hs'
    | span hs' hu =>
      cases hcut.symm.trans hs'
      exact ih hu

theorem Copies.mark?_of_trim (h : Copies cutter rest false t) (hu : Exposed false t.trim u) :
    ∃ v, cutter.mark? (u ++ v) = none := by
  obtain ⟨-, b', w, x, -, -, hsplit, hw, hx⟩ := h.trim
  rw [hsplit] at hu
  exact ⟨b' ++ rest, hw.mark?_of_exposed (hx.imp_right And.left) hu⟩

/-- The text cut into texts and marks in turn, with nothing trimmed off. -/
inductive Cuts (cutter : Cutter) : Text → List Text → Prop where
  | last {t : Text} (h : Copies cutter [] false t) : Cuts cutter t [t]
  | cut {t m r : Text} {raw : List Text} (h : Copies cutter (m ++ r) false t)
      (hm : cutter.mark? (m ++ r) = some (m, r)) (hr : Cuts cutter r raw) :
      Cuts cutter (t ++ (m ++ r)) (t :: m :: raw)

theorem Cuts.flatten (h : cutter.Cuts t raw) : raw.flatten = t := by
  induction h with
  | last => simp
  | cut _ _ _ ih => simp [ih]

theorem Cuts.copies (h : cutter.Cuts t raw) (hi : i % 2 = 0) (hu : raw[i]? = some u) :
    ∃ rest, Copies cutter rest false u := by
  induction h generalizing i with
  | last h =>
    rcases i with _ | i
    · obtain rfl := Option.some.inj hu
      exact ⟨_, h⟩
    · simp at hu
  | cut h _ _ ih =>
    rcases i with _ | _ | i
    · obtain rfl := Option.some.inj hu
      exact ⟨_, h⟩
    · cases hi
    · exact ih (by omega) hu

theorem Cuts.mark? (h : cutter.Cuts t raw) (hi : i % 2 = 1) (hu : raw[i]? = some u) :
    ∃ r, (raw.drop i).flatten = u ++ r ∧ cutter.mark? (u ++ r) = some (u, r) := by
  induction h generalizing i with
  | last =>
    rcases i with _ | i
    · cases hi
    · simp at hu
  | @cut _ m r _ _ hm hr ih =>
    rcases i with _ | _ | i
    · cases hi
    · obtain rfl := Option.some.inj hu
      refine ⟨r, ?_, hm⟩
      simp [hr.flatten]
    · exact ih (by omega) hu

end Cutter

namespace Clip

/-- The texts at the even places trimmed, the marks at the odd places as they are. -/
def trimmed (raw : List Text) : List Text := raw.mapIdx fun i t => if i % 2 = 0 then t.trim else t

theorem trimmed_cons (t m : Text) (raw : List Text) :
    trimmed (t :: m :: raw) = t.trim :: m :: trimmed raw := by
  have hparity (i : Nat) : (i + 1 + 1) % 2 = i % 2 := Nat.add_mod_right i 2
  simp [trimmed, List.mapIdx_cons, hparity]

theorem getElem?_trimmed_even (raw : List Text) (hi : i % 2 = 0) :
    (trimmed raw)[i]? = raw[i]?.map Text.trim := by
  simp [trimmed, List.getElem?_mapIdx, hi]

theorem getElem?_trimmed_odd (raw : List Text) (hi : i % 2 = 1) : (trimmed raw)[i]? = raw[i]? := by
  simp [trimmed, List.getElem?_mapIdx, hi]

theorem thinned_trimmed (h : cutter.Cuts t raw) : Thinned t (trimmed raw).flatten := by
  induction h with
  | @last t => simpa [trimmed] using Text.thinned_trim t
  | @cut t m r raw _ _ _ ih =>
    rw [trimmed_cons, List.flatten_cons, List.flatten_cons]
    exact (Text.thinned_trim t).append ((Thinned.refl m).append ih)

/-- Where parentheses do not group, the parts are the texts between the marks and the marks. -/
theorem exists_cuts_of_pieces (hgroups : cutter.groups = false) (htext : cutter.Copies t false text)
    (hword : wordAfter false text = word) (hstop : (cutter.pieces word t).stop = none) :
    ∃ raw, cutter.Cuts (text ++ t) raw ∧
    parts text (cutter.pieces word t).pieces = trimmed raw := by
  have hp (word : Bool) (c : Char) : ¬ cutter.Groups word c := by
    intro hg
    exact absurd hg.1 (by simp [hgroups])
  fun_induction Cutter.pieces cutter word t generalizing text with
  | case1 =>
    rw [List.append_nil]
    exact ⟨[text], .last htext, rfl⟩
  | case2 _ _ _ hc => exact absurd hc.1 (by simp [hgroups])
  | case3 _ _ _ _ hc => exact absurd hc.1 (by simp [hgroups])
  | case4 => cases hstop
  | case5 word c r _ _ s r' hs ih =>
    obtain ⟨heq, hne⟩ := eq_append_of_span? hs
    subst hword
    rw [heq] at htext ⊢
    rw [← List.append_assoc]
    refine ih (htext.append (.of_span (hp _ c) hs)) ?_ hstop
    rw [Cutter.wordAfter_append, Cutter.wordAfter_of_ne_nil hne]
  | case6 word c r _ _ hs m r' hm ih =>
    obtain ⟨raw, hraw, hparts⟩ := ih .nil rfl hstop
    have heq := (eq_append_of_firstMark hm).1
    rw [heq] at htext hm ⊢
    refine ⟨text :: m :: raw, .cut htext hm hraw, ?_⟩
    rw [trimmed_cons, ← hparts]
    rfl
  | case7 word c r _ _ hs hm ih =>
    subst hword
    rw [List.append_cons]
    refine ih (htext.append (.of_plain (hp _ c) hs hm)) ?_ hstop
    rw [Cutter.wordAfter_append, Cutter.wordAfter_of_ne_nil (List.cons_ne_nil c [])]
    rfl

variable {operators ps : List Text} {m n p : Text}

theorem eq_parts_of_split (h : split operators t = .ok ps) :
    ((Cutter.operators operators).pieces false t).stop = none ∧
      ps = parts [] ((Cutter.operators operators).pieces false t).pieces := by
  cases hstop : ((Cutter.operators operators).pieces false t).stop with
  | some stop =>
    rw [split, hstop] at h
    cases h
  | none =>
    rw [split, hstop] at h
    exact ⟨rfl, (Except.ok.inj h).symm⟩

theorem longest_of_mark? (h : (Cutter.operators operators).mark? (m ++ v) = some (m, v)) :
    m ∈ operators ∧ ∀ n ∈ operators, n <+: m ++ v → n.length ≤ m.length := by
  refine ⟨mem_longestFirst.1 (mem_of_firstMark h), fun n hn hpre => ?_⟩
  rcases eq_or_ne n [] with rfl | hne
  · exact Nat.zero_le _
  · obtain ⟨r, hr⟩ := hpre
    have hlong : NotShorter m n :=
      notShorter_of_firstMark (pairwise_longestFirst operators) h (mem_longestFirst.2 hn) hne
        hr.symm rfl
    exact hlong.length_le (List.prefix_append m v) ⟨r, hr⟩

theorem not_prefix_of_mark? (hm : (Cutter.operators operators).mark? (u ++ v) = none)
    (hn : n ∈ operators) (hne : n ≠ []) : ¬ n <+: u := by
  rintro ⟨r, rfl⟩
  have hfollow := Cutter.firstMark_eq_none_iff.1 hm n (mem_longestFirst.2 hn) hne (r ++ v)
    (List.append_assoc ..)
  cases hfollow

/-- The parts of a clip are odd in number, with operators at every second place. An operator is the
longest that matches the text from there on; in the other parts none begins outside their spans. -/
theorem parts_of_split {leaf : Text} (hne : [] ∉ operators) (h : split operators leaf = .ok ps) :
    ps.length % 2 = 1 ∧ Thinned leaf ps.flatten ∧
      ∃ raw : List Text, raw.flatten = leaf ∧ ps = trimmed raw ∧
        (∀ i m, i % 2 = 1 → ps[i]? = some m →
          m ∈ operators ∧ ∀ n ∈ operators, n <+: (raw.drop i).flatten → n.length ≤ m.length) ∧
        ∀ i p u, i % 2 = 0 → ps[i]? = some p → Exposed false p u → ∀ n ∈ operators, ¬ n <+: u := by
  obtain ⟨hstop, hps⟩ := eq_parts_of_split h
  have hodd : ps.length % 2 = 1 := by
    rw [hps]
    exact length_parts_odd [] _
  have hnil : (Cutter.operators operators).Copies leaf false [] := .nil
  obtain ⟨raw, hraw, hparts⟩ := exists_cuts_of_pieces rfl hnil rfl hstop
  obtain rfl : ps = trimmed raw := hps.trans hparts
  refine ⟨hodd, thinned_trimmed hraw, raw, hraw.flatten, rfl, ?_, ?_⟩
  · intro i m hi hm
    rw [getElem?_trimmed_odd raw hi] at hm
    obtain ⟨r, hr, hmark⟩ := hraw.mark? hi hm
    rw [hr]
    exact longest_of_mark? hmark
  · intro i p u hi hp hu n hn
    rw [getElem?_trimmed_even raw hi] at hp
    obtain ⟨t, ht, rfl⟩ := Option.map_eq_some_iff.1 hp
    obtain ⟨rest, hcopies⟩ := hraw.copies hi ht
    obtain ⟨v, hv⟩ := hcopies.mark?_of_trim hu
    exact not_prefix_of_mark? hv hn (ne_of_mem_of_not_mem hn hne)

theorem parts_of_split_overlapping :
    split [['>'], ['>', '='], ['=']] "f(a=b) >= c->>'d'= [=]".toList =
        .ok ["f(a=b)".toList, ">=".toList, "c->>'d'".toList, "=".toList, "[=]".toList] ∧
      Thinned "f(a=b) >= c->>'d'= [=]".toList "f(a=b)>=c->>'d'=[=]".toList ∧
      ∀ u, Exposed false "c->>'d'".toList u →
        ∀ n ∈ [['>'], ['>', '='], ['=']], ¬ n <+: u := by
  have hsplit : split [['>'], ['>', '='], ['=']] "f(a=b) >= c->>'d'= [=]".toList =
      .ok ["f(a=b)".toList, ">=".toList, "c->>'d'".toList, "=".toList, "[=]".toList] := by
        decide +kernel
  obtain ⟨-, hthin, raw, -, -, -, hexposed⟩ := parts_of_split (by decide) hsplit
  exact ⟨hsplit, hthin, fun u hu => hexposed 2 _ u rfl rfl hu⟩

end Clip

end QueryShorthand
