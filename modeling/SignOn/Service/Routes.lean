import SignOn.Http.Cookie
import SignOn.Service.Interaction
import SignOn.Text.Integer

/-!
# Requests to the service

Every request is identified with a browser session and intercepted; what the interception lets
through goes by its path and method to an endpoint. The filters of a listing of the log are fields of
the query; of a repeated field the last one counts.
-/

namespace SignOn.Service

inductive Endpoint where
  | authorize
  | login
  | audit
  | health
  deriving DecidableEq, Repr

namespace Endpoint

/-- The pages that describe the interface (`/docs`, `/redoc`, `/openapi.json`) are left out, and are
answered as unknown paths. -/
def all : List Endpoint := [.authorize, .login, .audit, .health]

def path (settings : Settings) : Endpoint → String
  | .authorize => settings.authorizePath
  | .login => settings.loginPath
  | .audit => "/audit"
  | .health => "/health"

def methods : Endpoint → List String
  | .authorize => ["GET", "POST"]
  | .login => ["POST"]
  | .audit | .health => ["GET"]

/-- A line end behind the path does not count. -/
def isAt (settings : Settings) (path : String) (endpoint : Endpoint) : Bool :=
  path == endpoint.path settings || path == endpoint.path settings ++ "\n"

end Endpoint

inductive Route where
  | endpoint (endpoint : Endpoint)
  | wrongMethod
  /-- The path has slashes at its end that the path of an endpoint has not. -/
  | slashless (path : String)
  | unknown
  deriving DecidableEq, Repr

def route (settings : Settings) (method path : String) : Route :=
  let candidates := Endpoint.all.filter (·.isAt settings path)
  let bare := Settings.dropTrailingSlashes path
  match candidates.find? (·.methods.contains method) with
  | some endpoint => .endpoint endpoint
  | none =>
    if !candidates.isEmpty then .wrongMethod
    else if path ≠ "/" ∧ path ≠ bare ∧ Endpoint.all.any (·.isAt settings bare) then .slashless bare
    else .unknown

def readLimit (text : String) : Except FieldProblem Int :=
  match Text.Integer.read text with
  | .ok n => .ok n
  | .error .malformed => .error .notInteger
  | .error (.tooLong _) => .error .tooManyDigits

/-- The filters of a listing, or the field that is not taken. -/
def listingQuery (pairs : List (String × String)) : Except InvalidField Audit.Query :=
  let query : Audit.Query :=
    { event := Http.lastValue "event_type" pairs
      outcome := Http.lastValue "outcome" pairs
      clientId := Http.lastValue "client_id" pairs }
  match Http.lastValue "limit" pairs with
  | none => .ok query
  | some text =>
    match readLimit text with
    | .error problem => .error ⟨.query, "limit", problem⟩
    | .ok limit => .ok { query with limit }

def listing (log : Audit.Log) (pairs : List (String × String)) : Answer :=
  match listingQuery pairs with
  | .error field => .invalidFields [field]
  | .ok query => .auditList (Audit.list log query)

def serve (settings : Settings) (request : Http.Request) (sid : Session.Id) :
    ServiceM Answer := do
  match route settings request.method request.path with
  | .endpoint .authorize => authorize settings sid request.ip
  | .endpoint .login => submitLogin settings sid request
  | .endpoint .audit => return listing (← get).database.audit request.queryPairs
  | .endpoint .health => return .health
  | .wrongMethod => return .methodNotAllowed
  | .slashless path => return .slashless request.origin path request.query
  | .unknown => return .notFound

def respond (settings : Settings) (request : Http.Request) (sid : Session.Id) :
    ServiceM Answer := do
  match (← intercept settings request sid).decision?.bind Answer.ofDecision? with
  | some answer => return answer
  | none => serve settings request sid

/-- Answers a request. The second result is the identifier that the browser gets if it has none. -/
def handle (settings : Settings) (request : Http.Request) :
    ServiceM (Answer × Option Session.Id) := do
  let (sid, newSession) ← openSession (request.cookie? settings.cookieName)
  return (← respond settings request sid, newSession)

end SignOn.Service
