import SignOn.Failure
import SignOn.Text.Cut
import SignOn.Text.Lowercase
import SignOn.Text.Numeral

/-!
# The environment and the settings

The environment holds the variables that the service is started with. The settings come from it.
Each has a default for development.
-/

namespace SignOn

abbrev Environment := List (String × String)

namespace Environment

def get? (env : Environment) (name : String) : Option String :=
  env.lookup name

/-- A variable whose value is not empty. -/
def nonEmpty? (env : Environment) (name : String) : Option String :=
  (env.get? name).filter (· != "")

end Environment

structure Settings where
  databaseUrl : String := "sqlite:///./oidc_idp.db"
  /-- Requests whose path starts with this are authorization requests. -/
  authorizePath : String := "/profile/oidc/authorize"
  /-- Where the login form is sent. -/
  loginPath : String := "/profile/oidc/login"
  /-- The cookie that carries the identifier of the browser session. -/
  cookieName : String := "idp_session"
  cookieSecure : Bool := false
  sessionBackend : String := "memory"
  /-- Seconds for which a login stays live. -/
  sessionTimeout : Int := 28800
  deriving DecidableEq, Repr

namespace Settings

def dropTrailingSlashes (path : String) : String :=
  String.ofList ((path.toList.reverse.dropWhile (· == '/')).reverse)

def isTrue (value : String) : Bool :=
  ["1", "true", "yes"].contains (Text.lower value)

def ofEnvironment (env : Environment) : Except Failure Settings :=
  let default : Settings := {}
  let get (name fallback : String) := (env.get? name).getD fallback
  let timeout := get "IDP_SESSION_TIMEOUT_SECONDS" (toString default.sessionTimeout)
  match Text.Numeral.read timeout with
  | .error cause => .error (.numeral timeout cause)
  | .ok sessionTimeout => .ok {
      sessionTimeout
      databaseUrl := get "IDP_DATABASE_URL" default.databaseUrl
      authorizePath := dropTrailingSlashes (get "IDP_AUTHORIZE_PATH" default.authorizePath)
      loginPath := dropTrailingSlashes (get "IDP_LOGIN_PATH" default.loginPath)
      cookieName := get "IDP_SESSION_COOKIE" default.cookieName
      cookieSecure := isTrue (get "IDP_SESSION_COOKIE_SECURE" "false")
      sessionBackend :=
        Text.lower (Text.trim (get "IDP_SESSION_BACKEND" default.sessionBackend)) }

end Settings

end SignOn
