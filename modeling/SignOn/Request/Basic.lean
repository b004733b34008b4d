import SignOn.Request.Record
import SignOn.Text.Cut
import SignOn.Text.Numeral

/-!
# Authorization requests

A request is built from the parameters that a relying party sends. Parameters that the protocol
does not define become extensions. A request has a client and, if any, an age limit that is not
negative.
-/

namespace SignOn

structure Request where
  clientId : String
  redirectUri : Option String := none
  state : Option String := none
  scopes : AtomSet := ∅
  /-- The tokens of the prompt parameter, in order. -/
  prompt : List String := []
  /-- Seconds since the login after which the user has to log in again. -/
  maxAge : Option Int := none
  acrValues : List String := []
  responseType : Option String := none
  nonce : Option String := none
  loginHint : Option String := none
  extensions : Assoc String := ∅
  deriving DecidableEq, Repr

namespace Request

inductive Fault where
  /-- No client, or a blank one. -/
  | missingClientId
  /-- An age limit that is no integer. -/
  | maxAgeNotInteger (text : String)
  | maxAgeNegative (n : Int)
  deriving DecidableEq, Repr

def Fault.message : Fault → String
  | .missingClientId => "No client id is specified in the authorization request"
  | .maxAgeNotInteger text => "max_age must be an integer, got " ++ Text.quoted text
  | .maxAgeNegative n => "max_age must not be negative, got " ++ toString n

/-- Parameters as they arrive: each name with its values. -/
abbrev Parameters := List (String × List String)

/-- The first value of each name; a name without values is dropped. -/
def singleValues (parameters : Parameters) : Assoc String :=
  .ofList (parameters.filterMap fun (name, values) => values.head?.map (name, ·))

def definedNames : List String :=
  ["client_id", "redirect_uri", "state", "scope", "prompt", "max_age", "acr_values",
    "response_type", "nonce", "login_hint"]

def noneToken : String := "none"

def loginToken : String := "login"

def tokens (value : Option String) : List String :=
  Text.words (value.getD "")

/-- A value that is empty counts as absent. -/
def nonEmpty (value : Option String) : Option String :=
  value.filter (· != "")

def readMaxAge (value : Option String) : Except Fault (Option Int) :=
  match value with
  | none => .ok none
  | some text =>
    if Text.trim text = "" then .ok none
    else match Text.Numeral.read (Text.trim text) with
      | .error _ => .error (.maxAgeNotInteger text)
      | .ok n => if n < 0 then .error (.maxAgeNegative n) else .ok (some n)

/-- Builds the request of some parameters. A missing client is reported before a bad age limit. -/
def ofParameters (parameters : Assoc String) : Except Fault Request :=
  let clientId := Text.trim ((parameters.get? "client_id").getD "")
  if clientId = "" then .error .missingClientId
  else (readMaxAge (parameters.get? "max_age")).map fun maxAge =>
    { clientId, maxAge
      redirectUri := nonEmpty (parameters.get? "redirect_uri")
      state := nonEmpty (parameters.get? "state")
      scopes := .ofTexts (tokens (parameters.get? "scope"))
      prompt := tokens (parameters.get? "prompt")
      acrValues := tokens (parameters.get? "acr_values")
      responseType := nonEmpty (parameters.get? "response_type")
      nonce := nonEmpty (parameters.get? "nonce")
      loginHint := nonEmpty (parameters.get? "login_hint")
      extensions := parameters.filterKeys (!definedNames.contains ·) }

def toRecord (request : Request) : Record :=
  { clientId := .text request.clientId
    redirectUri := .ofOption .text request.redirectUri
    state := .ofOption .text request.state
    scopes := request.scopes
    prompt := request.prompt.map .text
    maxAge := .ofOption .int request.maxAge
    acrValues := request.acrValues.map .text
    responseType := .ofOption .text request.responseType
    nonce := .ofOption .text request.nonce
    loginHint := .ofOption .text request.loginHint
    extensions := .ofAssoc (request.extensions.mapValues .text) }

end Request

end SignOn
