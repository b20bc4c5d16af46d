import QueryShorthand.Error
import QueryShorthand.Token.Basic

/-!
Reading one level of a token tree as items that alternate with combinators.
-/

namespace QueryShorthand

/-- A place in a sequence: a combinator, or an item that is read knowing the combinator before
it. -/
inductive Slot (α : Type) where
  | mark (symbol : Text)
  | item (read : Option Text → α)

namespace Slot

variable {m : Type → Type} [Monad m] [MonadExcept Error m] {α : Type}

/-- Reads the items in order; `before` is the combinator that waits for its item, `none` at the
start. A combinator must stand between two items, so a leading, trailing, doubled or lacking one is
an error. -/
def itemsAfter (before : Option Text) : List (Slot (m α)) → m (List α)
  | [] => throw (.combinator (before.getD []))
  | mark s :: _ => throw (.combinator s)
  | item read :: rest => do
    let x ← read before
    match rest with
    | [] => return [x]
    | mark s :: rest' => do return x :: (← itemsAfter (some s) rest')
    | item _ :: _ => throw (.combinator [])

def items (slots : List (Slot (m α))) : m (List α) :=
  match slots with
  | [] => pure []
  | _ => itemsAfter none slots

end Slot

end QueryShorthand
