import SignOn.Session.Login

/-!
# Hand-offs

A hand-off is the result of a completed interaction: what was asked for, by whom and for whom, and
when the user logged in. What follows it (codes, tokens) is somebody else's work.
-/

namespace SignOn

structure Handoff where
  clientId : Json
  subject : Option String
  /-- Seconds since the start of 1970 at which the user logged in. -/
  authTime : Option Int
  redirectUri : Json
  state : Json
  /-- The scopes in order, with one space between two of them. -/
  scope : String
  nonce : Json
  acrValues : List Json
  forced : Bool
  passive : Bool
  deriving DecidableEq, Repr

namespace Handoff

def texts : List Atom → Except Document.Fault (List String)
  | [] => .ok []
  | .text s :: rest => (texts rest).map (s :: ·)
  | _ :: _ => .error .noText

def scopeText (scopes : AtomSet) : Except Document.Fault String :=
  match scopes.ordered? with
  | none => .error .unordered
  | some atoms => (texts atoms).map (String.intercalate " ")

def ofRequest (request : Request.Record) (subject : Option String) (login : Option Instant) :
    Except Document.Fault Handoff :=
  let demand := Session.Login.Demand.ofRequest (some request)
  (scopeText request.scopes).map fun scope =>
    { scope, subject
      clientId := request.clientId
      authTime := login.map Instant.epochSeconds
      redirectUri := request.redirectUri
      state := request.state
      nonce := request.nonce
      acrValues := demand.acrValues
      forced := demand.forced
      passive := demand.passive }

def toJson (handoff : Handoff) : Json :=
  .object [
    ("status", .text "authenticated"),
    ("client_id", handoff.clientId),
    ("subject", .ofOption .text handoff.subject),
    ("auth_time", .ofOption .int handoff.authTime),
    ("redirect_uri", handoff.redirectUri),
    ("state", handoff.state),
    ("scope", .text handoff.scope),
    ("nonce", handoff.nonce),
    ("acr_values", .array handoff.acrValues),
    ("force_authn", .bool handoff.forced),
    ("is_passive", .bool handoff.passive)]

end Handoff

end SignOn
