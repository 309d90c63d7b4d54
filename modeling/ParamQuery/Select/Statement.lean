/-
The parts of a SELECT statement, and its text. The dialects differ in how
the number of rows is limited.
-/
import ParamQuery.Filter.Predicate
import ParamQuery.Select.Projection
import ParamQuery.Statement.Dialect

namespace ParamQuery.Select

/-- How a table is joined. -/
inductive JoinKind where
  | inner
  | left
  | right
  deriving DecidableEq, Repr

/-- The words of a join. -/
def JoinKind.words : JoinKind → String
  | .inner => "JOIN"
  | .left => "LEFT JOIN"
  | .right => "RIGHT JOIN"

/-- A table, under an alias or not. -/
def aliased (table : String) : Option String → String
  | .some a => table ++ " AS " ++ a
  | .none => table

/-- A joined table. -/
structure Join where
  kind : JoinKind
  table : String
  alias? : Option String
  condition : String
  deriving DecidableEq, Repr

/-- The text of a join. -/
def Join.text (j : Join) : String :=
  j.kind.words ++ " " ++ aliased j.table j.alias? ++ " ON " ++ j.condition

/-- Where rows come from: a table and those joined to it. -/
structure Source where
  table : String
  alias? : Option String
  joins : List Join
  deriving DecidableEq, Repr

/-- The text of a source. -/
def Source.text (s : Source) : String :=
  " ".intercalate (("FROM " ++ aliased s.table s.alias?) :: s.joins.map Join.text)

/-- The order of the rows. -/
structure Order where
  column : String
  descending : Bool
  deriving DecidableEq, Repr

/-- The text of an order. -/
def Order.text (o : Order) : String :=
  "ORDER BY " ++ o.column ++ " " ++ if o.descending then "DESC" else "ASC"

/-- The parts of a SELECT statement. -/
structure Statement where
  projection : Projection
  source? : Option Source
  predicates : List Filter.Predicate
  order? : Option Order
  distinct : Bool
  top? : Option Nat

namespace Statement

/-- The text of the predicates: nothing, or a clause. -/
def predicateText (s : Statement) : String := Filter.render s.predicates

/-- The limit in front of the columns. -/
def topText? (s : Statement) : Dialect → Option String
  | .named => s.top?.map fun n => "TOP(" ++ Number.natText n ++ ")"
  | .postgres => .none

/-- The limit behind everything else. -/
def limitText? (s : Statement) : Dialect → Option String
  | .named => .none
  | .postgres => s.top?.map fun n => "LIMIT " ++ Number.natText n

/-- The texts of the parts, in order. -/
def parts (s : Statement) (d : Dialect) : List String :=
  ["SELECT"] ++ (if s.distinct then ["DISTINCT"] else []) ++ (s.topText? d).toList ++
    [s.projection.text] ++ (s.source?.map Source.text).toList ++ [s.predicateText] ++
    (s.order?.map Order.text).toList ++ (s.limitText? d).toList

/-- The text of the statement, with named markers. -/
def text (s : Statement) (d : Dialect) : String := Text.normalized (" ".intercalate (s.parts d))

end Statement

end ParamQuery.Select
