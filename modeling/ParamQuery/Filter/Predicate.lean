/-
Predicates of a WHERE clause: a list of tests and parenthesised groups,
each with the connector that stands in front of it. A list is written with
one space between tokens, whatever blanks the columns contain.
-/
import ParamQuery.Statement.Markers
import ParamQuery.Text.Blank

namespace ParamQuery.Filter

/-- What stands in front of a predicate. -/
inductive Connector where
  /-- The word that begins the clause. -/
  | clause
  | and
  | or
  /-- Nothing: the first of a group, or a predicate for which no connector was asked. -/
  | none
  deriving DecidableEq, Repr

/-- The token of a connector, if it has one. -/
def Connector.token? : Connector → Option String
  | .clause => .some "WHERE"
  | .and => .some "AND"
  | .or => .some "OR"
  | .none => .none

/-- A word that is written as it is and never bound. -/
inductive Keyword where
  | null
  | true
  | false
  | unknown
  deriving DecidableEq, Repr

/-- The text of a keyword. -/
def Keyword.text : Keyword → String
  | .null => "NULL"
  | .true => "TRUE"
  | .false => "FALSE"
  | .unknown => "UNKNOWN"

/-- A comparison with one parameter. -/
inductive Comparator where
  | equal
  | notEqual
  | less
  | greater
  | lessOrEqual
  | greaterOrEqual
  | like
  deriving DecidableEq, Repr

/-- The text of a comparison. -/
def Comparator.text : Comparator → String
  | .equal => "="
  | .notEqual => "<>"
  | .less => "<"
  | .greater => ">"
  | .lessOrEqual => "<="
  | .greaterOrEqual => ">="
  | .like => "LIKE"

/-- The test of a column. Parameters stand by their names. -/
inductive Test where
  | compare (op : Comparator) (name : String)
  | isNull
  | notNull
  | is (word : Keyword)
  | not (word : Keyword)
  | between (min max : String)
  | member (names : List String) (negated : Bool)
  deriving DecidableEq, Repr

/-- The tokens of a test. -/
def Test.tokens : Test → List String
  | .compare op name => [op.text, marker name]
  | .isNull => ["IS NULL"]
  | .notNull => ["IS NOT NULL"]
  | .is word => ["IS " ++ word.text]
  | .not word => ["NOT " ++ word.text]
  | .between min max => ["BETWEEN " ++ marker min ++ " AND " ++ marker max]
  | .member names negated =>
    [if negated then "NOT IN" else "IN", "( " ++ ", ".intercalate (names.map marker) ++ " )"]

/-- A test of a column, or a group in parentheses. -/
inductive Predicate where
  | comparison (connector : Connector) (column : String) (test : Test)
  | group (connector : Connector) (children : List Predicate)
  deriving Repr

namespace Predicate

/-- The connector of a predicate. -/
def connector : Predicate → Connector
  | .comparison c _ _ => c
  | .group c _ => c

/-- The predicate with another connector. -/
def withConnector (c : Connector) : Predicate → Predicate
  | .comparison _ column test => .comparison c column test
  | .group _ children => .group c children

mutual

/-- The tokens of a predicate. -/
def tokens : Predicate → List String
  | .comparison c column test => c.token?.toList ++ column :: test.tokens
  | .group c children => c.token?.toList ++ "(" :: tokensOfList children ++ [")"]

/-- The tokens of a list of predicates. -/
def tokensOfList : List Predicate → List String
  | [] => []
  | p :: ps => p.tokens ++ tokensOfList ps

end

end Predicate

/-- The text of a list of predicates. -/
def render (ps : List Predicate) : String :=
  Text.normalized (" ".intercalate (Predicate.tokensOfList ps))

/-- Gives the first predicate another connector. -/
def leadWith (c : Connector) : List Predicate → List Predicate
  | [] => []
  | p :: ps => p.withConnector c :: ps

/-- Whether predicates behind the first are joined by anything but AND. -/
def isMixed (ps : List Predicate) : Bool := ps.tail.any (·.connector != .and)

/-- The list behind `c`, in parentheses if it is mixed. -/
def enclose (c : Connector) (ps : List Predicate) : List Predicate :=
  if isMixed ps then [.group c (leadWith .none ps)] else leadWith c ps

/-- Joins two lists with AND. -/
def conjoin (existing next : List Predicate) : List Predicate :=
  match existing, next with
  | existing, [] => existing
  | [], next => leadWith .clause next
  | existing, next => enclose .clause existing ++ enclose .and next

end ParamQuery.Filter
