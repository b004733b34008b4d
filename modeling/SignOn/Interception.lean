import SignOn.Client.Registry
import SignOn.Decision
import SignOn.Session.Login

/-!
# The interception of authorization requests

A request to a path under the authorize path is judged once, when it is stored as the pending
request of its browser session. While a request is pending the session is let through. A decision
is carried out at once: a forced login forgets the subject, a denial ends the interaction.
-/

namespace SignOn

inductive Interception where
  /-- The path is not under the authorize path. -/
  | unconcerned
  /-- A request of this client is already pending. -/
  | resumed (clientId : Json)
  | decided (decision : Decision) (clientId : String)
  /-- The parameters make no request of a known client. -/
  | rejected (clientId : Option String)
  deriving DecidableEq, Repr

namespace Interception

def name : Interception → String
  | .unconcerned => "not_applicable"
  | .resumed _ => "pending_exists"
  | .decided .. => "decided"
  | .rejected _ => "denied"

def rejection : Decision :=
  .refuse 400 "Invalid request"

def decision? : Interception → Option Decision
  | .unconcerned | .resumed _ => none
  | .decided decision _ => some decision
  | .rejected _ => some rejection

/-- Whether the request goes on to the handler of its path. -/
def letsThrough (interception : Interception) : Bool :=
  match interception.decision? with
  | none | some .proceed | some (.reauthenticate _) => true
  | some (.redirect _) | some (.refuse ..) => false

def clientId : Interception → Json
  | .unconcerned => .null
  | .resumed clientId => clientId
  | .decided _ clientId => .text clientId
  | .rejected clientId => .ofOption .text clientId

end Interception

/-- What the interception depends on beside the session store. -/
structure Interceptor where
  authorizePath : String
  registry : Client.Registry
  clock : Session.Login.Clock

namespace Interceptor

open Session (StoreM)

/-- The empty path is under no path. -/
def covers (authorizePath path : String) : Bool :=
  path != "" && authorizePath.toList.isPrefixOf path.toList

def findClient (registry : Client.Registry) (request : Request) : Except Failure Client :=
  match registry.lookup request.clientId with
  | .error cause => .error (.document cause)
  | .ok none => .error (.unknownClient request.clientId)
  | .ok (some client) => .ok client

def readRequest (registry : Client.Registry) (parameters : Assoc String) :
    Except Failure (Request × Client) :=
  match Request.ofParameters parameters with
  | .error cause => .error (.request cause)
  | .ok request => (findClient registry request).map (request, ·)

/-- Judges a request by its prompt and, if it may proceed, by the age of the last login. The age
plays no part for a request with the prompt `none`, which must never lead to a login page. The
first judgement of a request with the prompt `login` sets the marker that a login was forced and
the next one clears it, so that the login is forced once. -/
def judge (interceptor : Interceptor) (sid : Session.Id) (request : Request) (client : Client) :
    StoreM Decision := do
  let forced ← Session.isLoginForced sid
  let live ← Session.Login.isLive interceptor.clock sid
  let decision ←
    match Decision.ofPrompt request.prompt live forced (some client) request.redirectUri
        request.state Client.Redirect.resolve with
    | .error cause => throw (.uri cause)
    | .ok decision => pure decision
  let passive := request.prompt.contains Request.noneToken
  if request.prompt.contains Request.loginToken && !passive then
    Session.markLoginForced sid !forced
  if decision = .proceed && !passive then
    let last ← Session.loginTime? sid
    return Decision.ofAge (Decision.ageLimit request.maxAge client.defaultMaxAge) last
      interceptor.clock.now
  return decision

def carryOut (sid : Session.Id) : Decision → StoreM Unit
  | .proceed => pure ()
  | .reauthenticate _ => Session.forgetSubject sid
  | .redirect _ | .refuse .. => Session.endInteraction sid false

def accept (interceptor : Interceptor) (sid : Session.Id) (parameters : Assoc String)
    (request : Request) (client : Client) : StoreM Interception := do
  Session.putLoginHint sid request.loginHint
  Session.startInteraction sid request.toRecord parameters client.toRecord
  let decision ← interceptor.judge sid request client
  carryOut sid decision
  return .decided decision client.clientId

def intercept (interceptor : Interceptor) (path : String) (parameters : Request.Parameters)
    (sid : Session.Id) : StoreM Interception := do
  if !covers interceptor.authorizePath path then
    return .unconcerned
  if let some pending ← Session.pending? sid then
    return .resumed pending.clientId
  let parameters := Request.singleValues parameters
  match readRequest interceptor.registry parameters with
  | .ok (request, client) => interceptor.accept sid parameters request client
  | .error (.request _) | .error (.unknownClient _) =>
    return .rejected (Request.nonEmpty (parameters.get? "client_id"))
  | .error failure => throw failure

end Interceptor

end SignOn
