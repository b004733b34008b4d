import SignOn.Client.Basic
import SignOn.Uri.Basic
import SignOn.Uri.Form

/-!
# Redirects to clients

A request may name the address to answer at. It counts only if it is absolute and textually one of
the addresses that its client has registered. An answer is carried as parameters behind the query
of the address.
-/

namespace SignOn.Client.Redirect

inductive Fault where
  | unparseable (cause : Uri.Fault)
  | relative
  | unregistered (clientId : String)
  /-- A resolver's own reason. -/
  | refused (reason : String)
  deriving DecidableEq, Repr

def Fault.message : Fault → String
  | .unparseable cause => "Unparseable redirect URI: " ++ cause.message
  | .relative => "Redirect URI must be absolute"
  | .unregistered clientId => "Redirect URI not registered for client " ++ clientId
  | .refused reason => reason

/-- The address to redirect to, for the address that a request names. -/
abbrev Resolver := String → Client → Except Fault String

def resolve : Resolver := fun candidate client =>
  match Uri.split candidate.toList with
  | .error cause => .error (.unparseable cause)
  | .ok uri =>
    if !uri.isAbsolute then .error .relative
    else if .text candidate ∉ client.redirectUris then .error (.unregistered client.clientId)
    else .ok candidate

def appendQuery (uri : String) (parameters : List (String × String)) : Except Uri.Fault String :=
  (Uri.split uri.toList).map fun parts =>
    let extra := Uri.Form.encode parameters
    let query := if parts.query.isEmpty then extra else parts.query ++ '&' :: extra
    String.ofList { parts with query }.join

/-- The parameters of an error answer. An empty state is left out. -/
def errorParameters (error : String) (state : Option String) : List (String × String) :=
  ("error", error) :: match state with
    | none => []
    | some state => if state = "" then [] else [("state", state)]

def errorUri (uri error : String) (state : Option String) : Except Uri.Fault String :=
  appendQuery uri (errorParameters error state)

def loginRequired : String := "login_required"

end SignOn.Client.Redirect
