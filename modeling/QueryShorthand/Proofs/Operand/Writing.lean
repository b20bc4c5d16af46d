import QueryShorthand.Proofs.Operand.Number
import QueryShorthand.Proofs.Operand.Parts
import QueryShorthand.Proofs.Text.Upper
import QueryShorthand.Proofs.Token.Slots

/-! The grammar of operands. -/
namespace QueryShorthand.Operand

def isUpperWord (t : Text) : Bool :=
  t.head?.any Name.isStart && t.all fun c => c.isUpper || c.isDigit || c == '_'

mutual

inductive Writes : Operand → Text → Prop where
  | auto : Writes auto ['?']
  | null {t : Text} (h : isNullWord t = true) : Writes null t
  | parameter {name : Text} (hne : name ≠ []) (h : name.all isWordChar = true) :
      Writes (parameter name) (':' :: name)
  | number {t : Text} (h : isNumber t = true) : Writes (literal t) t
  | text {t : Text} : Writes (literal t) (Text.quoted '\'' t)
  /-- A document without floats that is nested less than 128 deep. -/
  | array {items : List Json} (h : Json.Fits 127 (.array items)) :
      Writes (array (Value.ofJsonAll items)) (Json.array items).written
  | column {c : Column} {t : Text} (h : c.Writes t) (hn : isNullWord t = false) :
      Writes (column c) t
  | call {name t : Text} {args : List Operand} (hn : isUpperWord name = true)
      (h : WritesArguments args t) : Writes (call name args) (name ++ '(' :: (t ++ [')']))

inductive WritesArguments : List Operand → Text → Prop where
  | none {b : Text} (hb : b.Blank) : WritesArguments [] b
  | last {o : Operand} {b t b' : Text} (hb : b.Blank) (h : Writes o t) (hb' : b'.Blank) :
      WritesArguments [o] (b ++ (t ++ b'))
  | more {o : Operand} {os : List Operand} {b t b' u : Text} (hb : b.Blank) (h : Writes o t)
      (hb' : b'.Blank) (hne : os ≠ []) (hs : WritesArguments os u) :
      WritesArguments (o :: os) (b ++ (t ++ b') ++ ',' :: u)

end

/-- What a writing of an operand has to be, on its own and as an argument. -/
structure Legible (o : Operand) (t : Text) : Prop where
  solid : Solid t
  read : read t = .ok o
  argument : argument t = .ok o

/-- What a writing of an argument has to be; wildcards have one too. -/
structure Item (o : Operand) (t : Text) : Prop where
  part : Part t
  argument : argument t = .ok o

theorem Legible.item {o : Operand} {t : Text} (h : Legible o t) : Item o t :=
  ⟨part_of_solid h.solid, h.argument⟩

variable {o : Operand} {c : Char} {r t : Text}

theorem read_of_simple? (hs : Solid t) (h : simple? t = .ok (some o)) : read t = .ok o := by
  rw [read_eq, hs.trim, h]

theorem argument_of_none (hc : Column.read? t = .ok none) (h : read t = .ok o) :
    argument t = .ok o := by
  rw [argument, hc]
  exact h

theorem argument_of_some {c : Column} (hc : Column.read? t = .ok (some c))
    (hw : c.isWildcard = false) (h : read t = .ok o) : argument t = .ok o := by
  simp only [argument, hc, hw]
  exact h

theorem column_read?_none (hs : Name.isStart c = false) (hq : c ≠ '\x60') (hw : c ≠ '*') :
    Column.read? (c :: r) = .ok none := by
  have hread : Name.read? false (c :: r) = none := by
    unfold Name.read?
    split
    · next r' h => exact absurd (List.cons.inj h).1 hq
    · simp [Name.word?, hs]
  have hname : Column.name? (c :: r) = none := by
    unfold Column.name?
    split
    · next r' h => exact absurd (List.cons.inj h).1 hw
    · exact hread
  simp [Column.read?, Column.splitQualifier, hread, hname]

theorem mem_of_toLower (h : c.toLower ∈ "null".toList) : c ∈ "nulNUL".toList := by
  by_cases hc : c.toNat < 128
  · exact forall_ascii (p := fun c => c.toLower ∈ "null".toList → c ∈ "nulNUL".toList)
      (by decide) hc h
  · have hlower : c.toLower = c := by
      unfold Char.toLower
      rw [dif_neg]
      rintro ⟨-, hle⟩
      exact hc (Nat.lt_of_le_of_lt hle (by decide))
    rw [hlower] at h
    have all : ∀ d ∈ "null".toList, d ∈ "nulNUL".toList :=
      Text.forall_mem_of_all (by decide)
    exact all c h

theorem mem_of_isNullWord (h : isNullWord t = true) : ∀ c ∈ t, c ∈ "nulNUL".toList := by
  intro c hc
  rw [isNullWord, beq_iff_eq] at h
  exact mem_of_toLower (h ▸ List.mem_map_of_mem hc)

theorem not_isNullWord (hc : c ∈ t) (h : c ∉ "nulNUL".toList) : isNullWord t = false := by
  by_contra hn
  exact h (mem_of_isNullWord (by simpa using hn) c hc)

theorem parameter?_none (h : c ≠ ':') : parameter? (c :: r) = none := by
  unfold parameter?
  split
  · next r' heq => exact absurd (List.cons.inj heq).1 h
  · rfl

theorem isNumber_head (h : isNumber (c :: r) = true) : isDecimalDigit c = true ∨ c = '-' := by
  by_contra hc
  rw [not_or] at hc
  have hdigits : digits? (c :: r) = none := by simp [digits?, hc.1]
  unfold isNumber at h
  split at h
  · next r' heq => exact hc.2 (List.cons.inj heq).1
  · simp [hdigits] at h

theorem not_digit_of_isStart (h : Name.isStart c = true) : isDecimalDigit c = false ∧ c ≠ '-' :=
  forall_ascii (p := fun c => Name.isStart c = true → isDecimalDigit c = false ∧ c ≠ '-')
    (by decide)
    (toNat_lt_of_isStart h) h

theorem isBareLiteral_false (hd : c ≠ '$') (hc : isDecimalDigit c = false) (hm : c ≠ '-') :
    isBareLiteral (c :: r) = false := by
  have hnum : isNumber (c :: r) = false := by
    by_contra h
    rcases isNumber_head (by simpa using h) with h | h
    · simp [hc] at h
    · exact hm h
  simp [isBareLiteral, hd, hnum]

theorem isQuoted_false (hs : c ≠ '\'') (hd : c ≠ '"') : Text.isQuoted (c :: r) = false := by
  simp [Text.isQuoted, Text.isWrapped, hs, hd]

theorem legible_auto : Legible auto ['?'] := by
  have hs : Solid ['?'] := solid_chars (by simp) (Text.forall_mem_of_all (by decide))
  have hr : read ['?'] = .ok auto := read_of_simple? hs rfl
  exact ⟨hs, hr, argument_of_none (column_read?_none (by decide) (by decide) (by decide)) hr⟩

theorem legible_parameter {name : Text} (hne : name ≠ []) (h : name.all isWordChar = true) :
    Legible (parameter name) (':' :: name) := by
  have hname : Solid name := solid_chars hne fun c hc =>
    have hw := List.all_eq_true.1 h c hc
    ⟨not_special_of_isWordChar hw, isBlank_of_isWordChar hw⟩
  have hp : parameter? (':' :: name) = some name := by simp [parameter?, hne, h]
  have hr : read (':' :: name) = .ok (parameter name) := by
    refine read_of_simple? (solid_colon hname) ?_
    simp [simple?, hp]
  exact ⟨solid_colon hname, hr,
    argument_of_none (column_read?_none (by decide) (by decide) (by decide)) hr⟩

theorem legible_null (h : isNullWord t = true) : Legible null t := by
  have hmem := mem_of_isNullWord h
  have hne : t ≠ [] := by
    rintro rfl
    cases h
  obtain ⟨c, r, rfl⟩ := List.exists_cons_of_ne_nil hne
  have letters : ∀ d ∈ "nulNUL".toList, Name.isStart d = true ∧ isWordChar d = true ∧
      d ∉ ['?', ':', '[', '*'] := Text.forall_mem_of_all (by decide)
  have hword : Name.IsWord (c :: r) := ⟨c, r, rfl, (letters c (hmem c List.mem_cons_self)).1,
    fun d hd => (letters d (hmem d (List.mem_cons_of_mem _ hd))).2.1⟩
  have hc := (letters c (hmem c List.mem_cons_self)).2.2
  simp only [List.mem_cons, List.not_mem_nil, or_false, not_or] at hc
  obtain ⟨hauto, hparam, harray, hstar⟩ := hc
  have hr : read (c :: r) = .ok null := by
    refine read_of_simple? (Name.solid_of_isWord hword) ?_
    simp [simple?, hauto, parameter?_none hparam, harray, h]
  have hcol : Column.Writes { name := c :: r } (c :: r) := .plain (.bare hword) (by simp [hstar])
  exact ⟨Name.solid_of_isWord hword, hr,
    argument_of_some (Column.read?_writes hcol) (Column.not_isWildcard_of_writes hcol) hr⟩

theorem legible_number (h : isNumber t = true) : Legible (literal t) t := by
  have hs := (numeral_of_isNumber h).solid
  obtain ⟨d, hd, hdigit⟩ := (numeral_of_isNumber h).last
  obtain ⟨c, r, rfl, -⟩ := hs.head
  have other :
      ∀ d ∈ ['?', ':', '[', '\'', '"', '\x60', '*'], ¬ (isDecimalDigit d = true ∨ d = '-') :=
    Text.forall_mem_of_all (by decide)
  have ne : ∀ d ∈ ['?', ':', '[', '\'', '"', '\x60', '*'], c ≠ d := by
    rintro d hd rfl
    exact other c hd (isNumber_head h)
  have hnull : isNullWord (c :: r) = false := by
    refine not_isNullWord (List.mem_of_getLast? hd) fun hm => ?_
    have letters : ∀ d ∈ "nulNUL".toList, isDecimalDigit d = false :=
      Text.forall_mem_of_all (by decide)
    simp [letters d hm] at hdigit
  have hstart : Name.isStart c = false := by
    by_contra hc
    have hdigit := isNumber_head h
    rcases not_digit_of_isStart (by simpa using hc) with ⟨hnot, hm⟩
    simp [hnot, hm] at hdigit
  have hr : read (c :: r) = .ok (literal (c :: r)) := by
    refine read_of_simple? hs ?_
    simp [simple?, ne '?' (by decide), parameter?_none (ne ':' (by decide)), ne '[' (by decide),
      hnull, isQuoted_false (ne '\'' (by decide)) (ne '"' (by decide)), isBareLiteral, h]
  exact ⟨hs, hr,
    argument_of_none (column_read?_none hstart (ne '\x60' (by decide)) (ne '*' (by decide))) hr⟩

theorem legible_text (t : Text) : Legible (literal t) (Text.quoted '\'' t) := by
  have hs : Solid (Text.quoted '\'' t) := solid_quoted rfl (quotes_escape t)
  have hnull : isNullWord (Text.quoted '\'' t) = false :=
    not_isNullWord (c := '\'') List.mem_cons_self (by decide)
  have hquoted : (Text.quoted '\'' t).isQuoted = true := by
    simp [Text.isQuoted, Text.isWrapped_quoted]
  have hparam : parameter? (Text.quoted '\'' t) = Option.none := parameter?_none (by decide)
  have hr : read (Text.quoted '\'' t) = .ok (literal t) := by
    refine read_of_simple? hs ?_
    have hunquote : (Text.quoted '\'' t).unquote = t := Text.unquote_quoted (by simp) t
    have hne : Text.quoted '\'' t ≠ [] ∧ Text.quoted '\'' t ≠ ['?'] ∧
        (Text.quoted '\'' t).head? ≠ some '[' := by simp [Text.quoted]
    simp [simple?, hne, hparam, hnull, hquoted, hunquote]
  exact ⟨hs, hr, argument_of_none (column_read?_none (by decide) (by decide) (by decide)) hr⟩

theorem legible_array {items : List Json} (h : Json.Nests 127 (.array items))
    (hn : (Json.array items).NumbersReread) :
    Legible (array (Value.ofJsonAll items)) (Json.array items).written := by
  have hs : Solid (Json.array items).written := by
    rw [Json.written]
    exact solid_bracketed (Json.balanced_writtenItems encloseJson_square items)
      (Json.balanced_writtenItems encloseJson_round items)
  have hread := Json.read?_written h hn
  have hr : read (Json.array items).written = .ok (array (Value.ofJsonAll items)) := by
    refine read_of_simple? hs ?_
    have hof : ofBracketed (Json.array items).written = array (Value.ofJsonAll items) := by
      simp [ofBracketed, hread]
    rw [Json.written] at hof ⊢
    simp [simple?, parameter?_none, List.getLast?_cons, hof]
  exact ⟨hs, hr, argument_of_none (column_read?_none (by decide) (by decide) (by decide)) hr⟩

theorem column_head {c : Column} (h : c.Writes t) :
    ∃ d r, t = d :: r ∧ (Name.isStart d = true ∨ d = '\x60') := by
  have name {name t : Text} (h : Name.Writes name t) :
      ∃ d r, t = d :: r ∧ (Name.isStart d = true ∨ d = '\x60') := by
    cases h with
    | bare h =>
      obtain ⟨d, r, rfl, hd, -⟩ := h
      exact ⟨d, r, rfl, .inl hd⟩
    | quoted h => exact ⟨_, _, rfl, .inr rfl⟩
  induction h with
  | plain h _ => exact name h
  | qualified hq h _ =>
    obtain ⟨d, r, rfl, hd⟩ := name hq
    exact ⟨d, _, rfl, hd⟩
  | path h _ ih =>
    obtain ⟨d, r, rfl, hd⟩ := ih
    exact ⟨d, _, rfl, hd⟩

theorem column_head_ne {d : Char} (h : Name.isStart d = true ∨ d = '\x60') :
    (isDecimalDigit d = false ∧ d ≠ '-') ∧ d ∉ ['?', ':', '[', '\'', '"', '$'] := by
  rcases h with h | rfl
  · refine ⟨not_digit_of_isStart h, fun hm => ?_⟩
    have all : ∀ e ∈ ['?', ':', '[', '\'', '"', '$'], Name.isStart e = false :=
      Text.forall_mem_of_all (by decide)
    simp [all d hm] at h
  · decide

theorem legible_column {c : Column} (h : c.Writes t) (hn : isNullWord t = false) :
    Legible (column c) t := by
  have hread := Column.read?_writes h
  have hwild := Column.not_isWildcard_of_writes h
  have hs := h.solid
  obtain ⟨d, r, rfl, hd⟩ := column_head h
  obtain ⟨⟨hdigit, hminus⟩, hne⟩ := column_head_ne hd
  simp only [List.mem_cons, List.not_mem_nil, or_false, not_or] at hne
  obtain ⟨hauto, hparam, harray, hsingle, hdouble, hdollar⟩ := hne
  have hr : read (d :: r) = .ok (column c) := by
    refine read_of_simple? hs ?_
    simp [simple?, hauto, parameter?_none hparam, harray, hn, isQuoted_false hsingle hdouble,
      isBareLiteral_false hdollar hdigit hminus, hread, hwild]
  exact ⟨hs, hr, argument_of_some hread hwild hr⟩

/-- What a writing of arguments has to be; the first may stand behind a comma. -/
structure Listed (os : List Operand) (t : Text) : Prop where
  balanced : Balanced '(' ')' t
  head : t.head? ≠ some '='
  tokens : ∃ tokens, commas.Scans [{}] false t tokens ∧ (os = [] → tokens = []) ∧
    (os ≠ [] → ∀ before, Slot.Alternates before (tokens.map argumentSlot) os)

variable {os : List Operand} {b b' u name : Text}

theorem listed_none (hb : b.Blank) : Listed [] b where
  balanced := balanced_blank hb
  head h := by
    obtain ⟨r, rfl⟩ := List.head?_eq_some_iff.1 h
    have he := hb '=' List.mem_cons_self
    revert he
    decide
  tokens := ⟨[], (inside_blank usual_commas hb).blank hb.trim, fun _ => rfl, fun h => absurd rfl h⟩

theorem Item.alternates (h : Item o t) (before : Option Text) :
    Slot.Alternates before ([Token.leaf t].map argumentSlot) [o] := .last h.argument

theorem Item.listed (h : Item o t) (hb : b.Blank) (hb' : b'.Blank) :
    Listed [o] (b ++ (t ++ b')) where
  balanced := h.part.balanced_padded hb hb'
  head := h.part.head?_padded hb b'
  tokens := ⟨_, h.part.scans_padded hb hb', by simp, fun _ => h.alternates⟩

theorem Item.listed_cons (h : Item o t) (hb : b.Blank) (hb' : b'.Blank) (hne : os ≠ [])
    (hs : Listed os u) :
    Listed (o :: os) (b ++ (t ++ b') ++ ',' :: u) where
  balanced := by
    have hcomma : Balanced '(' ')' [','] := balanced_char (by decide) (by decide) (by decide)
    exact (h.part.balanced_padded hb hb').append (hcomma.append hs.balanced)
  head := by
    rw [List.head?_append_of_ne_nil _ (by simp [h.part.ne_nil])]
    exact h.part.head?_padded hb b'
  tokens := by
    obtain ⟨ts, hts, -, hos⟩ := hs.tokens
    have hfirst := h.part.scans_padded hb hb'
    refine ⟨_, scans_comma hfirst hts hs.head, by simp, fun _ before => ?_⟩
    rw [List.map_append]
    exact (h.alternates before).append (hos hne (some [',']))

theorem listed_last (hb : b.Blank) (h : Legible o t) (hb' : b'.Blank) :
    Listed [o] (b ++ (t ++ b')) :=
  h.item.listed hb hb'

theorem listed_more (hb : b.Blank) (h : Legible o t) (hb' : b'.Blank) (hne : os ≠ [])
    (hs : Listed os u) : Listed (o :: os) (b ++ (t ++ b') ++ ',' :: u) :=
  h.item.listed_cons hb hb' hne hs

theorem arguments_eq (h : Listed os t) : arguments t = .ok os := by
  obtain ⟨ts, hts, hnil, hos⟩ := h.tokens
  have hread : Token.read [[',']] t = .ok ts := Cutter.read_eq_ok_iff.2 hts
  rw [arguments, hread]
  refine Slot.items_eq_ok_iff.2 ?_
  by_cases hne : os = []
  · exact .inl ⟨by rw [hnil hne]; rfl, hne⟩
  · exact .inr (hos hne none)

theorem of_isUpperChar (h : (c.isUpper || c.isDigit || c == '_') = true) :
    isWordChar c = true ∧ upperChar c = [c] ∧ endsWord c = true := by
  have hlt : c.toNat < 128 := by
    simp only [Bool.or_eq_true, beq_iff_eq] at h
    rcases h with (h | h) | rfl
    · have hrange : c.val ≥ 'A'.val ∧ c.val ≤ 'Z'.val := of_decide_eq_true h
      have hle : c.toNat ≤ 90 := UInt32.le_iff_toNat_le.1 hrange.2
      omega
    · simp only [Char.isDigit, Bool.and_eq_true, decide_eq_true_eq, UInt32.le_iff_toNat_le] at h
      have hle : c.toNat ≤ 57 := h.2
      omega
    · decide
  exact forall_ascii (p := fun c => (c.isUpper || c.isDigit || c == '_') = true →
    isWordChar c = true ∧ upperChar c = [c] ∧ endsWord c = true) (by decide) hlt h

theorem of_isUpperWord (h : isUpperWord name = true) :
    Name.IsWord name ∧ Text.upper name = name ∧ lastEndsWord name = true := by
  rw [isUpperWord, Bool.and_eq_true] at h
  obtain ⟨hhead, hall⟩ := h
  have hchars := fun c hc => of_isUpperChar (List.all_eq_true.1 hall c hc)
  refine ⟨?_, ?_, ?_⟩
  · cases name with
    | nil => cases hhead
    | cons c r =>
      exact ⟨c, r, rfl, by simpa using hhead, fun d hd => (hchars d (List.mem_cons_of_mem _ hd)).1⟩
  · exact Text.upper_eq_self fun c hc => (hchars c hc).2.1
  · have hne : name ≠ [] := by
      rintro rfl
      cases hhead
    rw [lastEndsWord, List.getLast?_eq_some_getLast hne]
    exact (hchars _ (List.getLast_mem hne)).2.2

theorem read_call (hword : Name.IsWord name) (h : arguments t = .ok os) :
    Column.read? (name ++ '(' :: (t ++ [')'])) = .ok none ∧
      read (name ++ '(' :: (t ++ [')'])) = .ok (call (Text.upper name) os) := by
  have hstops : Name.Stops ('(' :: (t ++ [')'])) := by
    intro c hc
    cases hc
    decide
  have hw := Name.word?_append hword hstops
  have hcall : call? (name ++ '(' :: (t ++ [')'])) = some (name, t) := by
    rw [call?, hw]
    simp [List.getLast?_cons]
  have hcol : Column.read? (name ++ '(' :: (t ++ [')'])) = .ok none := by
    have hname := Column.name?_writes (.bare hword) hstops
    simp [Column.read?, Column.splitQualifier, Name.read?_word false hword, hw, hname]
  have hnull : isNullWord (name ++ '(' :: (t ++ [')'])) = false :=
    not_isNullWord (c := '(') (by simp) (by decide)
  obtain ⟨d, r, rfl, hd, -⟩ := hword
  rw [List.cons_append] at hcall hcol hnull ⊢
  have htrim : Text.trim (d :: (r ++ '(' :: (t ++ [')']))) = d :: (r ++ '(' :: (t ++ [')'])) := by
    refine Text.trim_of_ends rfl (isBlank_of_isWordChar (isWordChar_of_isStart hd)) (d := ')') ?_
      (by decide)
    simp [List.getLast?_cons, List.getLast?_append]
  have hsimple : simple? (d :: (r ++ '(' :: (t ++ [')']))) = .ok none := by
    obtain ⟨⟨hdigit, hminus⟩, hne⟩ := column_head_ne (.inl hd)
    simp only [List.mem_cons, List.not_mem_nil, or_false, not_or] at hne
    obtain ⟨hauto, hparam, harray, hsingle, hdouble, hdollar⟩ := hne
    simp [simple?, hauto, parameter?_none hparam, harray, hnull, isQuoted_false hsingle hdouble,
      isBareLiteral_false hdollar hdigit hminus, hcol]
  refine ⟨hcol, ?_⟩
  simp only [read_eq, htrim, hsimple, hcall, h]
  rfl

theorem legible_call (hn : isUpperWord name = true) (h : Listed os t) :
    Legible (call name os) (name ++ '(' :: (t ++ [')'])) := by
  obtain ⟨hword, hupper, hends⟩ := of_isUpperWord hn
  have hs : Solid (name ++ '(' :: (t ++ [')'])) :=
    solid_call (Name.solid_of_isWord hword) hends h.balanced
  obtain ⟨hcol, hr⟩ := read_call hword (arguments_eq h)
  rw [hupper] at hr
  exact ⟨hs, hr, argument_of_none hcol hr⟩

mutual

theorem Writes.legible : ∀ {o : Operand} {t : Text}, Writes o t → Legible o t
  | _, _, .auto => legible_auto
  | _, _, .null h => legible_null h
  | _, _, .parameter hne h => legible_parameter hne h
  | _, _, .number h => legible_number h
  | _, _, .text => legible_text _
  | _, _, .array h => legible_array h.nests h.numbersReread
  | _, _, .column h hn => legible_column h hn
  | _, _, .call hn h => legible_call hn h.listed

theorem WritesArguments.listed :
    ∀ {os : List Operand} {t : Text}, WritesArguments os t → Listed os t
  | _, _, .none hb => listed_none hb
  | _, _, .last hb h hb' => listed_last hb h.legible hb'
  | _, _, .more hb h hb' hne hs => listed_more hb h.legible hb' hne hs.listed

end

end QueryShorthand.Operand
