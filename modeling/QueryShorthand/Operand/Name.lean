import QueryShorthand.Text.Alphanumeric
import QueryShorthand.Text.Quoted
import QueryShorthand.Text.WordChar

/-!
Names: a word that starts with an ASCII letter or an underscore, or any text in backticks.
-/

namespace QueryShorthand.Name

def isStart (c : Char) : Bool := c.isAlpha || c == '_'

def word? : Text → Option (Text × Text)
  | c :: r => if isStart c then some (c :: r.takeWhile isWordChar, r.dropWhile isWordChar) else none
  | [] => none

/-- A name at the head of a text, with what follows it. Between the backticks there must be at least
one character, and a line break cannot be escaped unless `multiline`. -/
def read? (multiline : Bool) (t : Text) : Option (Text × Text) :=
  match t with
  | '\x60' :: r =>
    match Text.quotedRest? backtick multiline r with
    | some ([], _) => none
    | p => p
  | _ => word? t

def whole? (multiline : Bool) (t : Text) : Option Text :=
  match read? multiline t with
  | some (name, []) => some name
  | _ => none

def isPlain (name : Text) : Bool :=
  name.head?.any isStart && name.all fun c => isAlphanumeric c || c == '_'

def written (name : Text) : Text := if isPlain name then name else Text.quoted backtick name

end QueryShorthand.Name
