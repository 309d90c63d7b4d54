/-
JSON values. Members of an object are in the order of their names, each
name once. A number is an integer where it was written as one and fits 64
bits with or without sign; else it is a binary number of 64 bits.
-/
import ParamQuery.Number.Binary

namespace ParamQuery

/-- A JSON value. -/
inductive Json where
  | null
  | bool (b : Bool)
  | int (i : Int)
  | float (x : Number.Binary64)
  | string (s : String)
  | array (items : List Json)
  | object (members : List (String × Json))

namespace Json

instance : Inhabited Json := ⟨.null⟩

/-- Sets a member in a list in the order of the names. -/
def setMember (name : String) (v : Json) : List (String × Json) → List (String × Json)
  | [] => [(name, v)]
  | (n, w) :: ms =>
    if name = n then (name, v) :: ms
    else if name < n then (name, v) :: (n, w) :: ms
    else (n, w) :: setMember name v ms

end Json

end ParamQuery
