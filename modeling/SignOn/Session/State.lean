import SignOn.Client.Basic
import SignOn.Request.Record
import SignOn.Time.Basic

/-!
# The state of a browser session

`State` is what one browser session remembers. `Row` is the same as a row of a table: the request,
its parameters and its client are documents there, and a time has no zone.
-/

namespace SignOn.Session

abbrev Id := String

structure State where
  /-- The authorization request that the session is working on. -/
  pending : Option Request.Record := none
  parameters : Option (Assoc String) := none
  client : Option Client.Record := none
  loginHint : Option String := none
  /-- Set when the pending request has been sent to the login page for `prompt=login`. -/
  loginForced : Bool := false
  subject : Option String := none
  loginTime : Option Instant := none
  deriving DecidableEq, Repr, Inhabited

structure Row where
  pending : Option Json
  parameters : Option Json
  client : Option Json
  loginHint : Option String
  loginForced : Bool
  subject : Option String
  loginTime : Option Instant
  deriving DecidableEq, Repr

def traverse (f : α → Except ε β) : Option α → Except ε (Option β)
  | none => .ok none
  | some a => (f a).map some

def parametersToJson (parameters : Assoc String) : Json :=
  .object (parameters.mapValues Json.text).entries

def textFields : Document.Fields → Except Document.Fault (List (String × String))
  | [] => .ok []
  | (name, .text value) :: rest => (textFields rest).map ((name, value) :: ·)
  | _ :: _ => .error .noText

def parametersOfJson : Json → Except Document.Fault (Assoc String)
  | .object fields => (textFields fields).map .ofList
  | _ => .error .noObject

/-- Integers of any length are written. What a session keeps has none that is too long to be read
again: a limit in a request has at most `Text.Numeral.maxDigits` digits, one of a client 64 bits. -/
def Row.ofState (state : State) : Except Document.Fault Row := do
  let pending ← traverse Request.Record.toJson state.pending
  let client ← traverse Client.Record.toJson state.client
  return { pending, client
           parameters := state.parameters.map parametersToJson
           loginHint := state.loginHint
           loginForced := state.loginForced
           subject := state.subject
           loginTime := state.loginTime }

def Row.state (row : Row) : Except Document.Fault State := do
  let pending ← traverse Request.Record.ofJson row.pending
  let parameters ← traverse parametersOfJson row.parameters
  let client ← traverse Client.Record.ofJson row.client
  return { pending, parameters, client
           loginHint := row.loginHint
           loginForced := row.loginForced
           subject := row.subject
           loginTime := row.loginTime }

/-- Whether putting `new` in the place of `old` writes to the table. A time in the table has no zone
and the one to be stored has, so that they never count as equal. -/
def Row.changes (old new : Row) : Bool :=
  old != new || new.loginTime.isSome

end SignOn.Session
