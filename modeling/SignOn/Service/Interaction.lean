import SignOn.Answer
import SignOn.Http.Form
import SignOn.Service.Basic

/-!
# The authorize path and the login path

A request that the interception lets through shows the login page until its browser session has a
live login, and then completes the interaction. A successful login resets the interaction and sends
the browser back to the authorize path, where the same request is judged anew.
-/

namespace SignOn.Service

def eventsOf : Interception → List Audit.Event
  | .unconcerned | .resumed _ => []
  | .rejected _ => [.requestRejected]
  | .decided .proceed _ => [.requestAccepted]
  | .decided (.reauthenticate _) _ => [.requestAccepted, .reauthenticationForced]
  | .decided (.redirect _) _ | .decided (.refuse ..) _ => [.requestAccepted, .passiveDenied]

/-- Intercepts a request and logs what came of it. Parameters are read only under the authorize
path. -/
def intercept (settings : Settings) (request : Http.Request) (sid : Session.Id) :
    ServiceM Interception := do
  let path ← raise request.addressPath
  let parameters ←
    if Interceptor.covers settings.authorizePath path then raise request.parameters else pure ∅
  let service ← get
  let interception ← onStore ((service.interceptor settings).intercept path parameters.entries sid)
  append ((eventsOf interception).map
    (·.entry service.now interception.clientId.text? none request.ip))
  return interception

def complete (sid : Session.Id) (pending : Request.Record) (ip : Option String) :
    ServiceM Answer := do
  let subject ← onStore (Session.subject? sid)
  let login ← onStore (Session.loginTime? sid)
  onStore (Session.endInteraction sid false)
  log .completed pending.clientId.text? subject ip
  match Handoff.ofRequest pending subject login with
  | .ok handoff => return .handoff handoff
  | .error cause => throw (.document cause)

def authorize (settings : Settings) (sid : Session.Id) (ip : Option String) : ServiceM Answer := do
  match ← onStore (Session.pending? sid) with
  | none => return .noInteraction
  | some pending =>
    if ← onStore (Session.Login.isLive ((← get).clock settings) sid) then
      complete sid pending ip
    else return .loginForm pending.clientId (← onStore (Session.loginHint? sid))

def checkPassword (hasher : Hasher) (database : Database) (username password : String) :
    Except Failure (Option User) :=
  match database.user? username with
  | none => .ok none
  | some user =>
    (hasher.verifyPassword password user.passwordHash).map fun valid =>
      if valid then some user else none

/-- The parameters by which a browser comes back: those of the pending request as they came, or its
client alone. -/
def reentryParameters (parameters : Option (Assoc String)) (pending : Request.Record) :
    List (String × String) :=
  match (parameters.getD ∅).entries with
  | [] => [("client_id", (pending.clientId.text?).getD "")]
  | entries => entries

def login (settings : Settings) (sid : Session.Id) (username password : String)
    (ip : Option String) : ServiceM Answer := do
  match ← onStore (Session.pending? sid) with
  | none => return .noInteraction
  | some pending =>
    let service ← get
    match ← raise (checkPassword service.hasher service.database username password) with
    | none =>
      log .loginFailed pending.clientId.text? none ip
      return .loginRejected pending.clientId username
    | some user =>
      discard <| onStore (Session.Login.record ((← get).clock settings) sid user.username)
      log .loginSucceeded pending.clientId.text? user.username ip
      let parameters ← onStore (Session.parameters? sid)
      onStore (Session.endInteraction sid true)
      return .reentry (reentryParameters parameters pending)

def missingFields (fields : List (String × String)) : List InvalidField :=
  (["username", "password"].filter fun name =>
      (Request.nonEmpty (Http.lastValue name fields)).isNone).map
    fun name => ⟨.body, name, .missing⟩

def submitLogin (settings : Settings) (sid : Session.Id) (request : Http.Request) :
    ServiceM Answer :=
  match request.formPairs with
  | .error failure => return .unreadForm failure.message
  | .ok fields =>
    match missingFields fields with
    | [] =>
      login settings sid ((Http.lastValue "username" fields).getD "")
        ((Http.lastValue "password" fields).getD "") request.ip
    | invalid => return .invalidFields invalid

end SignOn.Service
