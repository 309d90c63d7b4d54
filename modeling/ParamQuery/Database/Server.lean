/-
A database server that knows no SQL: it answers simple commands and
statements in order from lists of replies, and keeps a log of what it was
sent. A command without a reply succeeds, and so does a statement.
-/
import ParamQuery.Number.Integer
import ParamQuery.Value.Binding
import ParamQuery.Value.PgType

namespace ParamQuery

namespace Server

/-- What a server says when it refuses. -/
structure Refusal where
  /-- The five characters that tell what is wrong. -/
  code : String
  message : String
  /-- The constraint that does not hold. -/
  constraint? : Option String
  deriving DecidableEq, Repr

/-- A command that ends or begins a transaction. -/
inductive Command where
  | begin
  | commit
  | rollback
  deriving DecidableEq, Repr

/-- The text of a command. -/
def Command.text : Command → String
  | .begin => "BEGIN"
  | .commit => "COMMIT"
  | .rollback => "ROLLBACK"

/-- The reply to a command. -/
inductive CommandReply where
  | refuse (r : Refusal)
  | hangUp
  deriving DecidableEq, Repr

/-- When a statement is refused. -/
inductive Stage where
  | prepare
  | execute
  deriving DecidableEq, Repr

/-- The bytes of a parameter or a cell; none where it is missing. -/
abbrev Cell := Option (List UInt8)

/-- The reply to a statement. -/
structure Reply where
  /-- The types of the parameters, if they are not all text. -/
  types? : Option (List PgType)
  columns : List (String × PgType)
  rows : List (List Cell)
  /-- What is said when the statement is done. -/
  tag : String
  refusal? : Option (Stage × Refusal)
  /-- Whether the server hangs up when it receives the statement. -/
  hangsUp : Bool

/-- The reply to a statement where none is given. -/
def Reply.default : Reply := ⟨.none, [], [], "DELETE 0", .none, false⟩

/-- What the server was sent. -/
inductive Event where
  | command (c : Command)
  | prepare (sql : String)
  | execute (params : List Cell)
  deriving DecidableEq, Repr

/-- Why there is no answer. -/
inductive Fault where
  | refused (r : Refusal)
  /-- There is no connection. -/
  | closed
  /-- The parameters do not go with the statement. -/
  | badParameters
  deriving DecidableEq, Repr

end Server

/-- The state of a server. -/
structure Server where
  commandReplies : List Server.CommandReply
  replies : List Server.Reply
  isOpen : Bool
  log : List Server.Event

namespace Server

/-- A server with nothing to say. -/
def fresh : Server := ⟨[], [], true, []⟩

/-- Adds to the log. -/
def note (s : Server) (e : Event) : Server := { s with log := s.log ++ [e] }

/-- The server after it hung up. -/
def gone (s : Server) : Server := { s with isOpen := false }

/-! ## Commands -/

/-- Sends a command. -/
def command (s : Server) (c : Command) : Except Fault Unit × Server :=
  if !s.isOpen then (.error .closed, s)
  else
    let after := { s.note (.command c) with commandReplies := s.commandReplies.tail }
    match s.commandReplies.head? with
    | .none => (.ok (), after)
    | .some (.refuse r) => (.error (.refused r), after)
    | .some .hangUp => (.error .closed, after.gone)

/-! ## Statements -/

/-- Whether `part` occurs in a text. -/
def occursIn (part : List Char) : List Char → Bool
  | [] => part.isEmpty
  | c :: cs => part.isPrefixOf (c :: cs) || occursIn part cs

/-- How many of the markers `$k`, `$k+1`, … occur without a gap; at most `limit`. -/
def markersFrom (sql : List Char) (k : Nat) : (limit : Nat) → Nat
  | 0 => 0
  | limit + 1 =>
    if occursIn ('$' :: Number.digits k) sql then markersFrom sql (k + 1) limit + 1 else 0

/-- The types of the parameters. Those that are not given are text, and there are as many as
markers without a gap. -/
def Reply.parameterTypes (r : Reply) (sql : String) : List PgType :=
  r.types?.getD (List.replicate (markersFrom sql.toList 1 sql.length) .text)

/-- The bytes of values for parameters of types. -/
def bindAll : List PgType → List Value → Except BindingError (List Cell)
  | type :: types, v :: vs =>
    match v.bind type with
    | .ok cell => (bindAll types vs).map (cell :: ·)
    | .error e => .error e
  | _, _ => .ok []

/-- The parameters as they are sent, if there are as many values as types and all have a form. -/
def parameters? (types : List PgType) (values : List Value) : Option (List Cell) :=
  if types.length = values.length then (bindAll types values).toOption else .none

/-- Sends a statement. Gives the reply to it, if it is not refused. -/
def statement (s : Server) (sql : String) (values : List Value) : Except Fault Reply × Server :=
  if !s.isOpen then (.error .closed, s)
  else
    let reply := s.replies.head?.getD .default
    let prepared := { s.note (.prepare sql) with replies := s.replies.tail }
    if reply.hangsUp then (.error .closed, prepared.gone)
    else
      match reply.refusal? with
      | .some (.prepare, r) => (.error (.refused r), prepared)
      | refusal? =>
        match parameters? (reply.parameterTypes sql) values with
        | .none => (.error .badParameters, prepared)
        | .some cells =>
          let executed := prepared.note (.execute cells)
          match refusal? with
          | .some (_, r) => (.error (.refused r), executed)
          | .none => (.ok reply, executed)

/-- The number at the end of what is said when a statement is done. -/
def Reply.affected (r : Reply) : Nat :=
  let word := (r.tag.toList.reverse.takeWhile (· != ' ')).reverse
  match Number.readInt (.unsigned 64) word with
  | .ok n => n.toNat
  | .error _ => 0

end Server

end ParamQuery
