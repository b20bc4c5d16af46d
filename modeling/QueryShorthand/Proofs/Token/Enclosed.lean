import QueryShorthand.Proofs.Json.RoundTrip
import QueryShorthand.Proofs.Token.Span
import QueryShorthand.Text.Quoted

/-! Texts that a span takes as a whole. -/
namespace QueryShorthand

variable {c q o cl : Char} {s t body r : Text} {d : Nat} {start : Text}

/-- The text stands inside the quotes, whatever follows. -/
def Quotes (q : Char) (t : Text) : Prop :=
  ∀ r, quotedRest q (t ++ r) = prepended t (quotedRest q r)

theorem quotes_nil : Quotes q [] := fun _ => (prepended_nil _).symm

theorem Quotes.append (hs : Quotes q s) (ht : Quotes q t) : Quotes q (s ++ t) := by
  intro r
  rw [List.append_assoc, hs, ht, prepended_prepended]

theorem quotes_char (hb : c ≠ '\\') (hq : c ≠ q) : Quotes q [c] := by
  intro r
  rw [List.singleton_append, quotedRest_cons hb, if_neg hq]

theorem quotes_escaped : Quotes q ['\\', c] := by
  intro r
  rfl

theorem quotes_flatMap {f : Char → Text} (h : ∀ c, Quotes q (f c)) (t : Text) :
    Quotes q (t.flatMap f) := by
  induction t with
  | nil => exact quotes_nil
  | cons c t ih => exact (h c).append ih

theorem quotes_escape (t : Text) : Quotes q (Text.escape q t) := by
  induction t with
  | nil => exact quotes_nil
  | cons c t ih =>
    rw [Text.escape]
    split
    · exact quotes_escaped.append ih
    · next h =>
      rw [not_or] at h
      exact (quotes_char h.1 h.2).append ih

theorem quotes_control {n : Nat} (h : n < 32) :
    Quotes '"' ['\\', 'u', '0', '0', Json.hexDigit (n / 16), Json.hexDigit (n % 16)] := by
  have all : ∀ n : Fin 32, (Json.hexDigit (n.val / 16) ≠ '\\' ∧ Json.hexDigit (n.val / 16) ≠ '"') ∧
      Json.hexDigit (n.val % 16) ≠ '\\' ∧ Json.hexDigit (n.val % 16) ≠ '"' := by decide
  obtain ⟨hhigh, hlow⟩ := all ⟨n, h⟩
  have hzero : Quotes '"' ['0'] := quotes_char (by decide) (by decide)
  exact quotes_escaped.append (hzero.append (hzero.append
    ((quotes_char hhigh.1 hhigh.2).append (quotes_char hlow.1 hlow.2))))

theorem quotes_escapedChar (c : Char) : Quotes '"' (Json.escapedChar c) := by
  unfold Json.escapedChar
  split
  · exact quotes_escaped
  split
  · exact quotes_escaped
  split
  · exact quotes_escaped
  split
  · exact quotes_escaped
  split
  · exact quotes_escaped
  split
  · exact quotes_escaped
  split
  · exact quotes_escaped
  split
  · next h => exact quotes_control h
  · next hq hb _ _ _ _ _ _ => exact quotes_char hb hq

theorem atom_quoted (hq : isQuote q = true) (h : Quotes q body) :
    atom q (body ++ q :: r) = .ok (q :: (body ++ [q]), r) := by
  refine (atom_quote_iff hq).2 ⟨body ++ [q], ?_, rfl⟩
  rw [h, quotedRest_cons (ne_backslash_of_isQuote hq), if_pos rfl]
  rfl

def Balanced (o cl : Char) (t : Text) : Prop :=
  ∀ start d r, enclosedRest start o cl d (t ++ r) = prepended t (enclosedRest start o cl d r)

structure Brackets (o cl : Char) : Prop where
  opener : o ≠ '\\' ∧ isQuote o = false
  closer : cl ≠ '\\' ∧ isQuote cl = false
  ne : cl ≠ o

theorem balanced_nil : Balanced o cl [] := fun _ _ _ => (prepended_nil _).symm

theorem Balanced.append (hs : Balanced o cl s) (ht : Balanced o cl t) : Balanced o cl (s ++ t) := by
  intro start d r
  rw [List.append_assoc, hs, ht, prepended_prepended]

theorem atom_char (h : c ≠ '\\' ∧ isQuote c = false) : atom c r = .ok ([c], r) := by
  unfold atom
  rw [if_neg h.1, if_neg (by simp [h.2])]

theorem balanced_char (h : c ≠ '\\' ∧ isQuote c = false) (ho : c ≠ o) (hcl : c ≠ cl) :
    Balanced o cl [c] := by
  intro start d r
  exact enclosedRest_other (atom_char h) (by simpa using ho) (by simpa using hcl)

theorem balanced_chars (h : ∀ c ∈ t, (c ≠ '\\' ∧ isQuote c = false) ∧ c ≠ o ∧ c ≠ cl) :
    Balanced o cl t := by
  induction t with
  | nil => exact balanced_nil
  | cons c t ih =>
    obtain ⟨hc, ho, hcl⟩ := h c List.mem_cons_self
    exact (balanced_char hc ho hcl).append (ih fun d hd => h d (List.mem_cons_of_mem _ hd))

theorem balanced_quoted (hq : isQuote q = true) (h : Quotes q body) :
    Balanced o cl (q :: (body ++ [q])) := by
  intro start d r
  have hatom : atom q (body ++ [q] ++ r) = .ok (q :: (body ++ [q]), r) := by
    rw [List.append_assoc]
    exact atom_quoted hq h
  exact enclosedRest_other hatom (by simp) (by simp)

theorem Balanced.nested (hb : Brackets o cl) (h : Balanced o cl t) :
    Balanced o cl (o :: (t ++ [cl])) := by
  intro start d r
  have hclose : enclosedRest start o cl (d + 1) (cl :: r) =
      prepended [cl] (enclosedRest start o cl d r) :=
        enclosedRest_closer (atom_char hb.closer) hb.ne
  rw [List.cons_append, List.append_assoc, enclosedRest_opener (atom_char hb.opener), h,
    List.singleton_append, hclose, prepended_prepended, prepended_prepended]
  rfl

theorem Balanced.enclosed (hb : Brackets o cl) (h : Balanced o cl t) :
    enclosedRest start o cl 0 (t ++ cl :: r) = .ok (t ++ [cl], r) := by
  rw [h, enclosedRest_last (atom_char hb.closer) hb.ne]
  rfl

/-- The characters of a document outside texts that are neither digits nor square brackets. -/
def Json.signs : Text := "-,:\x7b\x7dnulltruefalse.+".toList

/-- What brackets have to leave alone for documents to stand between them. -/
structure EncloseJson (o cl : Char) : Prop where
  char : ∀ c, isDigit c = true ∨ c ∈ Json.signs → Balanced o cl [c]
  array : ∀ t, Balanced o cl t → Balanced o cl ('[' :: (t ++ [']']))

theorem balanced_list {t : Text} (h : ∀ c ∈ t, Balanced o cl [c]) : Balanced o cl t := by
  induction t with
  | nil => exact balanced_nil
  | cons c t ih =>
    exact (h c List.mem_cons_self).append (ih fun d hd => h d (List.mem_cons_of_mem _ hd))

theorem balanced_json_char (ho : o ∈ ['[', '(']) (hcl : cl ∈ [']', ')'])
    (hc : isDigit c = true ∨ c ∈ Json.signs) : Balanced o cl [c] := by
  have other : ∀ d ∈ ['\\', '\'', '"', '\x60', '[', ']', '(', ')'],
      ¬ (isDigit d = true ∨ d ∈ Json.signs) := Text.forall_mem_of_all (by decide)
  have ne : ∀ d ∈ ['\\', '\'', '"', '\x60', '[', ']', '(', ')'], c ≠ d := by
    rintro d hd rfl
    exact other c hd hc
  have hquote : isQuote c = false := by
    simp [isQuote, ne '\'' (by decide), ne '"' (by decide), ne '\x60' (by decide)]
  refine balanced_char ⟨ne '\\' (by decide), hquote⟩ (ne o ?_) (ne cl ?_)
  · simp only [List.mem_cons, List.not_mem_nil, or_false] at ho ⊢
    grind
  · simp only [List.mem_cons, List.not_mem_nil, or_false] at hcl ⊢
    grind

theorem brackets_square : Brackets '[' ']' := ⟨by decide, by decide, by decide⟩

theorem brackets_round : Brackets '(' ')' := ⟨by decide, by decide, by decide⟩

theorem encloseJson_square : EncloseJson '[' ']' where
  char _ hc := balanced_json_char (by decide) (by decide) hc
  array _ h := h.nested brackets_square

theorem encloseJson_round : EncloseJson '(' ')' where
  char _ hc := balanced_json_char (by decide) (by decide) hc
  array t h := by
    have hopen : Balanced '(' ')' ['['] := balanced_char (by decide) (by decide) (by decide)
    have hclose : Balanced '(' ')' [']'] := balanced_char (by decide) (by decide) (by decide)
    exact hopen.append (h.append hclose)

namespace Json

variable (he : EncloseJson o cl)

include he

theorem balanced_ofNat (n : Nat) : Balanced o cl (Text.ofNat n) :=
  balanced_list fun c hc => he.char c (.inl (isDigit_of_mem_ofNat hc))

theorem balanced_ofInt (n : Int) : Balanced o cl (Text.ofInt n) := by
  unfold Text.ofInt
  split
  · exact (he.char '-' (.inr (by decide))).append (balanced_ofNat he _)
  · exact balanced_ofNat he _

theorem balanced_floatText (x : Binary64) : Balanced o cl (floatText x) := by
  have signs : ∀ c ∈ ".e+-".toList, c ∈ Json.signs := Text.forall_mem_of_all (by decide)
  exact balanced_list fun c hc => he.char c ((mem_floatText hc).imp_right (signs c))

theorem balanced_word (w : String) (h : ∀ c ∈ w.toList, c ∈ signs) : Balanced o cl w.toList :=
  balanced_list fun c hc => he.char c (.inr (h c hc))

omit he in
theorem balanced_quotedText (t : Text) : Balanced o cl (quotedText t) :=
  balanced_quoted rfl (quotes_flatMap quotes_escapedChar t)

mutual

theorem balanced_written : ∀ j : Json, Balanced o cl j.written
  | null => balanced_word he "null" (Text.forall_mem_of_all (by decide))
  | bool true => balanced_word he "true" (Text.forall_mem_of_all (by decide))
  | bool false => balanced_word he "false" (Text.forall_mem_of_all (by decide))
  | number (.natural n) => balanced_ofNat he _
  | number (.negative n _) => balanced_ofInt he _
  | number (.float x _) => balanced_floatText he x
  | text t => balanced_quotedText t
  | array items => he.array _ (balanced_writtenItems items)
  | object members => by
    exact (he.char '\x7b' (.inr (by decide))).append
      ((balanced_writtenMembers members).append (he.char '\x7d' (.inr (by decide))))

theorem balanced_writtenItems : ∀ js : List Json, Balanced o cl (writtenItems js)
  | [] => balanced_nil
  | [j] => balanced_written j
  | j :: k :: js => by
    exact (balanced_written j).append
      ((he.char ',' (.inr (by decide))).append (balanced_writtenItems (k :: js)))

theorem balanced_writtenMembers : ∀ ms : List (Text × Json), Balanced o cl (writtenMembers ms)
  | [] => balanced_nil
  | [(k, j)] => by
    exact (balanced_quotedText k).append
      ((he.char ':' (.inr (by decide))).append (balanced_written j))
  | (k, j) :: m :: ms => by
    exact (balanced_quotedText k).append ((he.char ':' (.inr (by decide))).append
      ((balanced_written j).append
        ((he.char ',' (.inr (by decide))).append (balanced_writtenMembers (m :: ms)))))

end

end Json

end QueryShorthand
