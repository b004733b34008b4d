import SignOn.Session.Store

/-!
# The login of a browser session

A login is live from the time it is recorded until a time span has passed. Whether it is live is
judged whenever it is asked for; nothing expires by itself.
-/

namespace SignOn.Session.Login

/-- The time at which a login is judged, and the seconds for which it stays live. -/
structure Clock where
  now : Instant
  timeout : Int := 28800
  deriving DecidableEq, Repr

/-- Whether more than the time span has passed since a login, to the microsecond. -/
def Clock.isExpired (clock : Clock) (login : Instant) : Bool :=
  decide (clock.timeout * Time.microsPerSecond < clock.now.since login)

/-- The subject of the live login, or why there is none. -/
def liveSubject (clock : Clock) (sid : Id) : StoreM (Except Absence String) := do
  match ← subject? sid with
  | none => return .error .noSubject
  | some subject =>
    match ← loginTime? sid with
    | none => return .error .noTimestamp
    | some login =>
      return if clock.isExpired login then .error (.expired subject) else .ok subject

def requireSubject (clock : Clock) (sid : Id) : StoreM String := do
  match ← liveSubject clock sid with
  | .ok subject => return subject
  | .error cause => throw (.noLiveLogin cause)

def isLive (clock : Clock) (sid : Id) : StoreM Bool := do
  return (← liveSubject clock sid).toBool

def record (clock : Clock) (sid : Id) (subject : String) : StoreM Instant := do
  putLogin sid subject (some clock.now)
  return clock.now

/-- What a request asks of the login: that it happen anew, that it show no page. -/
structure Demand where
  forced : Bool := false
  passive : Bool := false
  loginHint : Json := .null
  acrValues : List Json := []
  deriving DecidableEq, Repr

/-- Without a request nothing is asked for. -/
def Demand.ofRequest : Option Request.Record → Demand
  | none => {}
  | some request =>
    { forced := request.prompts Request.loginToken
      passive := request.prompts Request.noneToken
      loginHint := request.loginHint
      acrValues := request.acrValues }

end SignOn.Session.Login
