import QueryShorthand.Token.Lexer

namespace QueryShorthand.Clip

/-- The parts of a clip, alternately text and operator; `text` was read since the last operator. -/
def parts (text : Text) : List Piece → List Text
  | [] => [text.trim]
  | .mark m :: ps => text.trim :: m :: parts [] ps
  | p :: ps => parts (text ++ p.text) ps

def split (operators : List Text) (clip : Text) : Except Error (List Text) :=
  let cut := (Cutter.operators operators).pieces false clip
  match cut.stop with
  | some s => .error (s.error clip)
  | none => .ok (parts [] cut.pieces)

theorem length_parts_odd (text : Text) (pieces : List Piece) :
    (parts text pieces).length % 2 = 1 := by
  fun_induction parts text pieces with
  | case1 => rfl
  | case2 text m ps ih => simp only [List.length_cons]; omega
  | case3 text p ps _ ih => exact ih

end QueryShorthand.Clip
