import QueryShorthand.Token.Sequence
import QueryShorthand.Token.Tree

namespace QueryShorthand.Token

def listSlot {α : Type} (read : Token → Except Error α) : Token → Slot (Except Error α)
  | combinator s => .mark s
  | t => .item fun _ => read t

/-- The items of a list as written; argument lists and groups stay whole. -/
def commaList (input : Text) : Except Error (List Text) := do
  let tokens ← read [[',']] input
  Slot.items (tokens.map (listSlot fun t => .ok t.written))

end QueryShorthand.Token
