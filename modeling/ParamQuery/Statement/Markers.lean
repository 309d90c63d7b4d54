/-
The markers of a statement. A statement is cut into its characters and its
markers, and written again with a number for each marker whose name is
known, counted by first appearance.

`flatMap_text_pieces`: cutting loses nothing.
-/
import ParamQuery.Number.Digits
import ParamQuery.Text.Ascii

namespace ParamQuery

/-- The marker of a parameter. -/
def marker (name : String) : String := "@" ++ name

namespace Markers

/-- A piece of a statement: a character, or a marker with the name it carries. -/
inductive Piece where
  | char (c : Char)
  | marker (name : List Char)
  deriving DecidableEq, Repr

/-- The characters of a piece. -/
def Piece.text : Piece → List Char
  | .char c => [c]
  | .marker name => '@' :: name

/-- Cuts a statement into pieces. In a literal there are no markers; a quote starts and ends one.
The name of a marker is the longest run of name characters. -/
def pieces (inLiteral : Bool) : List Char → List Piece
  | [] => []
  | c :: cs =>
    if c = '\'' then .char c :: pieces (!inLiteral) cs
    else if c = '@' ∧ inLiteral = false then
      .marker (cs.takeWhile Text.isNameChar) :: pieces false (cs.dropWhile Text.isNameChar)
    else .char c :: pieces inLiteral cs
termination_by cs => cs.length
decreasing_by
  · simp
  · exact Nat.lt_succ_of_le (List.dropWhile_suffix _).length_le
  · simp

theorem flatMap_text_pieces (inLiteral : Bool) (cs : List Char) :
    (pieces inLiteral cs).flatMap Piece.text = cs := by
  fun_induction pieces inLiteral cs with
  | case1 => rfl
  | case2 inLiteral cs ih => simp [Piece.text, ih]
  | case3 inLiteral c cs hq hm ih => simp [Piece.text, ih, hm.1]
  | case4 inLiteral c cs hq hm ih => simp [Piece.text, ih]

/-- Adds a name behind those seen before, unless it is among them. -/
def see (seen : List String) (name : String) : List String :=
  if name ∈ seen then seen else seen ++ [name]

/-- Writes the pieces, with `$` and a number for each known name. `seen` are the names that have
numbers already. Gives the text and all names that have a number, in their order. -/
def numbered (known : List String) (seen : List String) : List Piece → List Char × List String
  | [] => ([], seen)
  | .char c :: ps =>
    let (text, names) := numbered known seen ps
    (c :: text, names)
  | .marker n :: ps =>
    let name := String.ofList n
    if name ∈ known then
      let seen := see seen name
      let (text, names) := numbered known seen ps
      ('$' :: Number.digits (seen.idxOf name + 1) ++ text, names)
    else
      let (text, names) := numbered known seen ps
      ('@' :: n ++ text, names)

end Markers

end ParamQuery
