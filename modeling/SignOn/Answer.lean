import SignOn.Audit.Basic
import SignOn.Decision
import SignOn.Handoff

/-!
# Answers

What the service answers to a request, by its meaning. How an answer is written as a reply of the
server is the matter of `Http.Reply`.
-/

namespace SignOn

inductive FieldProblem where
  | missing
  | notInteger
  | tooManyDigits
  deriving DecidableEq, Repr

inductive FieldPlace where
  | body
  | query
  deriving DecidableEq, Repr

structure InvalidField where
  place : FieldPlace
  name : String
  problem : FieldProblem
  deriving DecidableEq, Repr

inductive Answer where
  /-- The interaction is complete. -/
  | handoff (handoff : Handoff)
  /-- The login page for the pending request of a client, filled in with a hint. -/
  | loginForm (clientId : Json) (hint : Option String)
  /-- The login page after a login that failed. -/
  | loginRejected (clientId : Json) (username : String)
  /-- The way back to the authorize path with the parameters of the pending request. -/
  | reentry (parameters : List (String × String))
  /-- The way to an address of the client that carries an error. -/
  | clientRedirect (uri : String)
  | refusal (status : Nat) (message : String)
  /-- No request is pending. -/
  | noInteraction
  | auditList (entries : Audit.Log)
  | health
  | invalidFields (fields : List InvalidField)
  /-- A form that is not read. -/
  | unreadForm (message : String)
  | methodNotAllowed
  /-- The way to a path that is known without the slashes at its end. -/
  | slashless (origin path query : String)
  | notFound
  deriving DecidableEq, Repr

namespace Answer

def status : Answer → Nat
  | .handoff _ | .loginForm .. | .auditList _ | .health => 200
  | .reentry _ | .clientRedirect _ => 302
  | .slashless .. => 307
  | .noInteraction | .unreadForm _ => 400
  | .loginRejected .. => 401
  | .notFound => 404
  | .methodNotAllowed => 405
  | .invalidFields _ => 422
  | .refusal status _ => status

/-- The answer of an interception that lets nothing through. -/
def ofDecision? : Decision → Option Answer
  | .proceed | .reauthenticate _ => none
  | .redirect uri => some (.clientRedirect uri)
  | .refuse status message => some (.refusal status message)

end Answer

end SignOn
