import SignOn.Request.Basic
import SignOn.Uri.Basic

/-!
# Failures

Every way in which an operation can fail, as its cause. `Failure.message` words the causes that a
caller is told about.
-/

namespace SignOn

/-- Why a browser session has no live login. -/
inductive Absence where
  | noSubject
  | noTimestamp
  | expired (subject : String)
  deriving DecidableEq, Repr

def Absence.message : Absence → String
  | .noSubject => "No authentication in this browser session"
  | .noTimestamp => "Authentication has no timestamp"
  | .expired subject => "IdP session for " ++ subject ++ " timed out"

inductive Failure where
  /-- The parameters make no request. -/
  | request (cause : Request.Fault)
  | unknownClient (clientId : String)
  /-- A row of the registry or of the session table cannot be read, or a record not be stored. -/
  | document (cause : Document.Fault)
  | uri (cause : Uri.Fault)
  | storeUnavailable
  | noLiveLogin (cause : Absence)
  /-- A request and a client that do not belong together. -/
  | clientMismatch (given asked : Json)
  | pendingMismatch (given : Json)
  /-- A row of the same key exists. -/
  | duplicateKey
  /-- A stored password hash of an unknown form. -/
  | unusableHash
  | numeral (text : String) (cause : Text.Numeral.Fault)
  /-- A form of more fields than `limit`. -/
  | tooManyFields (limit : Nat)
  deriving DecidableEq, Repr

namespace Failure

def message : Failure → String
  | .request cause => cause.message
  | .unknownClient clientId => "Unknown client: " ++ clientId
  | .document cause => cause.message
  | .uri cause => cause.message
  | .storeUnavailable => "Session store is unavailable"
  | .noLiveLogin cause => cause.message
  | .clientMismatch given asked =>
    "Client " ++ given.shown ++ " does not match request client " ++ asked.shown
  | .pendingMismatch given => "Client " ++ given.shown ++ " does not match pending request"
  | .duplicateKey => ""
  | .unusableHash => "Invalid salt"
  | .numeral text cause => cause.message text
  | .tooManyFields limit =>
    "Too many fields. Maximum number of fields is " ++ toString limit ++ "."

end Failure

end SignOn
