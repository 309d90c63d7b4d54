/-
The scripts that filters are built by, and what the test of a column
allocates. Each step of a script may ask for a connector.
-/
import ParamQuery.Filter.Predicate
import ParamQuery.Statement.Params

namespace ParamQuery

namespace Filter

/-- The connector that a step asks for. -/
inductive Link where
  | none
  | and
  | or
  deriving DecidableEq, Repr

/-- The connector that was asked for. -/
def Link.connector : Link → Connector
  | .none => .none
  | .and => .and
  | .or => .or

/-- What a column is tested for, with the values themselves. -/
inductive Condition where
  | compare (op : Comparator) (value : Value)
  /-- The text of the value occurs. -/
  | like (value : Value)
  | between (min max : Value)
  | member (values : List Value) (negated : Bool)
  | is (word : Keyword)
  | not (word : Keyword)
  | isNull
  | notNull

/-- A step of a script. -/
inductive Step where
  /-- A test of a column. -/
  | test (link : Link) (column : String) (condition : Condition)
  /-- A column to which no test is applied. -/
  | dropped (link : Link) (column : String)
  /-- A group with the parts that were registered for it, in order. -/
  | group (link : Link) (parts : List (List Step))
  /-- A place at which the filter is looked at; the tag tells places apart. -/
  | mark (tag : Nat)

/-- The pattern that finds the text of a value anywhere. -/
def pattern (v : Value) : Value := .text ("%" ++ v.display ++ "%")

/-- The test that a condition becomes, and the parameters with those that it allocates. A list of
no values becomes nothing. -/
def Condition.allocate (column : String) (ps : Params) : Condition → Option Test × Params
  | .compare op v => (.some (.compare op (ps.nextName (stemOf column))), ps.allocate (stemOf column) v)
  | .like v =>
    (.some (.compare .like (ps.nextName (stemOf column))), ps.allocate (stemOf column) (pattern v))
  | .between min max =>
    let after := ps.allocate "Min" min
    (.some (.between (ps.nextName "Min") (after.nextName "Max")), after.allocate "Max" max)
  | .member [] _ => (.none, ps)
  | .member vs negated =>
    (.some (.member (Params.nextNames (stemOf column) ps.next vs.length) negated),
      Params.allocateAll (stemOf column) ps vs)
  | .is word => (.some (.is word), ps)
  | .not word => (.some (.not word), ps)
  | .isNull => (.some .isNull, ps)
  | .notNull => (.some .notNull, ps)

end Filter

end ParamQuery
