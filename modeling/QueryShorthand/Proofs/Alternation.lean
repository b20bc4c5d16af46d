import QueryShorthand.Proofs.Condition.Alternation
import QueryShorthand.Proofs.Join.Items
import QueryShorthand.Proofs.Operand.Reading

/-! Conditions, joins, lists and arguments are all read as items with combinators between them, and
refused where a combinator is out of place. -/
namespace QueryShorthand

namespace Token

theorem listSlot_eq_slotOf {α : Type} (f : Token → Except Error α) :
    listSlot f = slotOf fun t _ => f t := by
  funext t
  cases t <;> rfl

/-- How a list is read that takes every item `t` as `f t`. -/
theorem sequenced_listed {α : Type} (f : Token → α) (tokenized : Except Error (List Token)) :
    Sequenced tokenized Flat (fun _ => True)
      (fun tokens xs => List.Forall₂ (fun p x => x = f p.2) (inPlace tokens) xs)
      (tokenized >>= fun tokens => Slot.items (tokens.map (listSlot fun t => .ok (f t)))) := by
  rw [listSlot_eq_slotOf]
  apply (sequenced_items (fun t _ => .ok (f t)) tokenized).imp
  · intro tokens _ p _
    exact ⟨f p.2, rfl⟩
  · intro tokens xs h
    exact h.imp fun p x hx => (Except.ok.inj hx).symm

end Token

namespace Operand

def ofToken : Token → Option Text → Except Error Operand
  | .leaf t, _ => argument t
  | token, _ => .error (.operand token.written)

theorem argumentSlot_eq_slotOf : argumentSlot = Token.slotOf ofToken := by
  funext t
  cases t <;> rfl

theorem ofToken_eq_ok_iff {t : Token} {before : Option Text} {o : Operand} :
    ofToken t before = .ok o ↔ ∃ text, t = .leaf text ∧ argument text = .ok o := by
  cases t with
  | leaf text =>
    constructor
    · intro h
      exact ⟨text, rfl, h⟩
    · rintro ⟨_, ⟨⟩, h⟩
      exact h
  | combinator s =>
    constructor
    · intro h
      cases h
    · rintro ⟨_, ⟨⟩, _⟩
  | group lead tokens tail =>
    constructor
    · intro h
      cases h
    · rintro ⟨_, ⟨⟩, _⟩

theorem sequenced_arguments (args : Text) :
    Token.Sequenced (Token.read [[',']] args) Token.Flat
      (fun tokens => ∀ p ∈ Token.inPlace tokens, ∃ o text, p.2 = .leaf text ∧ argument text = .ok o)
      (fun tokens os => List.Forall₂ (fun p o => ∃ text, p.2 = .leaf text ∧ argument text = .ok o)
        (Token.inPlace tokens) os)
      (arguments args) := by
  unfold arguments
  rw [argumentSlot_eq_slotOf]
  apply (Token.sequenced_items ofToken _).imp
  · intro tokens h p hp
    obtain ⟨o, ho⟩ := h p hp
    exact ⟨o, ofToken_eq_ok_iff.2 ho⟩
  · intro tokens os h
    exact h.imp fun p o ho => ofToken_eq_ok_iff.1 ho

end Operand

namespace Token

/-- Items are never side by side, and each reader of a sequence takes them one by one, between
combinators. -/
theorem sequenced_of_readers :
    (∀ hook delimiters input tokens, readWith hook delimiters input = .ok tokens →
      ∀ level, Within tokens level → Separated level) ∧
    (∀ source, Sequenced (read Condition.delimiters source) Within
      (fun tokens => ∀ t ∈ tokens, Expr.Accepted t)
      (fun tokens c => tokens = [] ∧ c.expr = none ∨ ∃ e, c.expr = some e ∧ Expr.Mirrors tokens e)
      (Condition.read source)) ∧
    (∀ setting source, Sequenced (readWith Join.checkLeaf Join.Kind.symbols source) Within
      (fun tokens => ∃ steps presets, Join.Takes setting .empty (inPlace tokens) steps presets)
      (fun tokens j => tokens ≠ [] ∧ Join.Takes setting .empty (inPlace tokens) j.steps j.presets)
      (Join.read setting source)) ∧
    (∀ input, Sequenced (read [[',']] input) Flat (fun _ => True)
      (fun tokens xs => List.Forall₂ (fun p x => x = p.2.written) (inPlace tokens) xs)
      (commaList input)) ∧
    (∀ text name args, Operand.simple? text.trim = .ok none →
      Operand.call? text.trim = some (name, args) →
      ∃ result, Operand.read text = result.map (Operand.call (Text.upper name)) ∧
        Sequenced (read [[',']] args) Flat
          (fun tokens => ∀ p ∈ inPlace tokens, ∃ o t, p.2 = .leaf t ∧ Operand.argument t = .ok o)
          (fun tokens os =>
            List.Forall₂ (fun p o => ∃ t, p.2 = .leaf t ∧ Operand.argument t = .ok o)
            (inPlace tokens) os)
          result) ∧
    (∀ text, Sequenced (read [[',']] text) Flat (fun _ => True)
      (fun tokens xs => List.Forall₂ (fun p x => x = Text.unquote p.2.written) (inPlace tokens) xs)
      (Join.argumentTexts text)) := by
  refine ⟨?_, Condition.sequenced_read, Join.sequenced_read, ?_, ?_, ?_⟩
  · intro hook delimiters input tokens h
    exact separatedWithin_of_readWith h
  · intro input
    exact sequenced_listed written (read [[',']] input)
  · intro text name args hs hc
    refine ⟨Operand.arguments args, ?_, Operand.sequenced_arguments args⟩
    rw [Operand.read_eq, hs]
    simp only [hc]
  · intro text
    exact sequenced_listed (fun t => Text.unquote t.written) (read [[',']] text)

/-- The doubled combinator in the parentheses is all that is wrong here. -/
theorem sequenced_of_readers_doubled : ∃ tokens level,
    readWith Join.checkLeaf Join.Kind.symbols "a*(b**c)".toList = .ok tokens ∧ Within tokens level ∧
      Misplaced level ∧
      (∃ steps presets, Join.Takes ⟨{}, .empty⟩ .empty (inPlace tokens) steps presets) ∧
      ∃ s, Join.read ⟨{}, .empty⟩ "a*(b**c)".toList = .error (.combinator s) := by
  let inner : List Token := [.leaf ['b'], .combinator ['*'], .combinator ['*'], .leaf ['c']]
  let tokens : List Token := [.leaf ['a'], .combinator ['*'], .group [] inner []]
  have htokens : readWith Join.checkLeaf Join.Kind.symbols "a*(b**c)".toList = .ok tokens := by
    with_unfolding_all rfl
  have hgroup : .group [] inner [] ∈ tokens := .tail _ (.tail _ (.head _))
  have hwithin : Within tokens inner := .inside hgroup (.whole inner)
  have hdoubled : Misplaced inner := .doubled [.leaf ['b']] ['*'] ['*'] [.leaf ['c']]
  have htakes : ∃ steps presets, Join.Takes ⟨{}, .empty⟩ .empty (inPlace tokens) steps presets :=
    ⟨_, _,
      .leaf rfl (.group (List.cons_ne_nil _ _) (.inl rfl) (.leaf rfl (.leaf rfl (.nil _))) rfl rfl
      (.nil _))⟩
  refine ⟨tokens, inner, htokens, hwithin, hdoubled, htakes, ?_⟩
  exact (sequenced_of_readers.2.2.1 _ _).combinator tokens inner htokens hwithin hdoubled htakes

end Token

end QueryShorthand
