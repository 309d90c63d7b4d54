/-
The outcome of running a statement: a value; an expected negative answer;
or a captured error with what was being done. Every outcome that is no
success explains itself: a blank message is replaced.
-/
import ParamQuery.Error
import ParamQuery.Text.Blank

namespace ParamQuery

/-- The outcome of an operation. -/
inductive Outcome (α : Type) where
  | success (value : α)
  | fail (message : String)
  | exception (message : String) (cause : Error)
  deriving Repr

/-- `message`, or `fallback` if it is blank. -/
def explained (message fallback : String) : String :=
  if Text.isBlankText message then fallback else message

namespace Outcome

variable {α β : Type}

/-- A negative answer. -/
def failed (message : String) : Outcome α := .fail (explained message "operation failed")

/-- A captured error. -/
def raised (message : String) (cause : Error) : Outcome α :=
  .exception (explained message "operation raised an exception") cause

/-- The outcome of something that gives a value or an error. -/
def captured (message : String) : Except Error α → Outcome α
  | .ok v => .success v
  | .error e => .raised message e

/-- The name of the kind. -/
def kind : Outcome α → String
  | .success _ => "Success"
  | .fail _ => "Fail"
  | .exception .. => "Exception"

/-- Whether there is a value. -/
def isSuccess : Outcome α → Bool
  | .success _ => true
  | _ => false

/-- Whether there is none. -/
def isFailure (o : Outcome α) : Bool := !o.isSuccess

/-- Whether an error was captured. -/
def isException : Outcome α → Bool
  | .exception .. => true
  | _ => false

/-- The value. -/
def value? : Outcome α → Option α
  | .success v => .some v
  | _ => .none

/-- The message of an outcome without value. -/
def message? : Outcome α → Option String
  | .success _ => .none
  | .fail m => .some m
  | .exception m _ => .some m

/-- The captured error. -/
def cause? : Outcome α → Option Error
  | .exception _ e => .some e
  | _ => .none

/-- Applies `f` to the value. -/
def map (f : α → β) : Outcome α → Outcome β
  | .success v => .success (f v)
  | .fail m => .fail m
  | .exception m e => .exception m e

/-- The outcome without its value. -/
def discard (o : Outcome α) : Outcome Unit := o.map fun _ => ()

/-- The value, or an error; a negative answer becomes one. -/
def toExcept : Outcome α → Except Error α
  | .success v => .ok v
  | .fail m => .error (.other m)
  | .exception _ e => .error e

/-- The value; or what is said to a caller who asks for it without having looked. -/
def demand (o : Outcome α) : Except String α :=
  match o with
  | .success v => .ok v
  | .fail m | .exception m _ =>
    .error ("attempted to read the value of a " ++ o.kind ++ " outcome: " ++ m)

/-- The outcome with everything it carries. -/
def detail (valueText : α → String) : Outcome α → String
  | .success v => "Success(" ++ valueText v ++ ")"
  | .fail m => "Fail(" ++ Text.quoted m ++ ")"
  | .exception m e =>
    Text.recordText "Exception" [("message", Text.quoted m), ("cause", e.detail)]

end Outcome

end ParamQuery
