import SignOn.Json.Document

/-!
# Stored authorization requests

A `Request.Record` is an authorization request as a session keeps it: a record that is written as a
document and read back. Reading a document that was written gives the same record.
-/

namespace SignOn.Request

structure Record where
  clientId : Json
  redirectUri : Json
  state : Json
  scopes : AtomSet
  prompt : List Json
  maxAge : Json
  acrValues : List Json
  responseType : Json
  nonce : Json
  loginHint : Json
  extensions : AtomMap Json
  deriving DecidableEq, Repr

namespace Record

def ofFields (fields : Document.Fields) : Except Document.Fault Record := do
  let clientId ← Document.required fields "client_id"
  let scopes ← Document.setOf (Document.optional fields "scopes")
  let prompt ← Document.listOf (Document.optional fields "prompt")
  let acrValues ← Document.listOf (Document.optional fields "acr_values")
  let extensions ← Document.mapOf (Document.optional fields "extensions")
  return { clientId, scopes, prompt, acrValues, extensions
           redirectUri := Document.optional fields "redirect_uri"
           state := Document.optional fields "state"
           maxAge := Document.optional fields "max_age"
           responseType := Document.optional fields "response_type"
           nonce := Document.optional fields "nonce"
           loginHint := Document.optional fields "login_hint" }

def toJson (record : Record) : Except Document.Fault Json := do
  let scopes ← Document.ofSet record.scopes
  return .object [
    ("client_id", record.clientId),
    ("redirect_uri", record.redirectUri),
    ("state", record.state),
    ("scopes", scopes),
    ("prompt", .array record.prompt),
    ("max_age", record.maxAge),
    ("acr_values", .array record.acrValues),
    ("response_type", record.responseType),
    ("nonce", record.nonce),
    ("login_hint", record.loginHint),
    ("extensions", Document.ofMap record.extensions)]

def ofJson : Json → Except Document.Fault Record
  | .object fields => ofFields fields
  | _ => .error .noObject

/-- Whether a token is among the prompts. -/
def prompts (record : Record) (token : String) : Bool :=
  record.prompt.any (· == .text token)

end Record

end SignOn.Request
