import QueryShorthand.Text.Basic

/-!
Token trees: leaves and parenthesised groups, with the combinators between them.
-/

namespace QueryShorthand

inductive Token where
  | leaf (text : Text)
  | combinator (symbol : Text)
  /-- A parenthesised span; `lead` stands before its `(` and `tail` after its `)`. -/
  | group (lead : Text) (tokens : List Token) (tail : Text)
  deriving Repr, BEq

namespace Token

def isCombinator : Token → Bool
  | combinator _ => true
  | _ => false

mutual

def written : Token → Text
  | leaf t => t
  | combinator s => s
  | group lead tokens tail => lead ++ '(' :: (writtenAll tokens ++ ')' :: tail)

def writtenAll : List Token → Text
  | [] => []
  | t :: ts => t.written ++ writtenAll ts

end

mutual

def depth : Token → Nat
  | group _ tokens _ => 1 + depthAll tokens
  | _ => 0

def depthAll : List Token → Nat
  | [] => 0
  | t :: ts => max t.depth (depthAll ts)

end

end Token

end QueryShorthand
