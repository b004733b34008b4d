import SignOn.Database.Basic
import SignOn.Settings

/-!
# Seeding the tables

At the start one user and one client may be taken from variables of the environment, and a client
for development is always there. A row that exists is left as it is. An age limit that is no
integer stops the seeding after the user.
-/

namespace SignOn.Database.Seed

def developmentClient : String := "test-client"

def developmentAddress : String := "http://127.0.0.1:8000/callback"

/-- Reads an integer variable. Blank text is none. -/
def readInteger (value : Option String) : Except Failure (Option Int) :=
  match value with
  | none => .ok none
  | some text =>
    if Text.trim text = "" then .ok none
    else match Text.Numeral.read text with
      | .error cause => .error (.numeral text cause)
      | .ok n => .ok (some n)

/-- The pieces between commas, trimmed, without the blank ones. -/
def addresses (value : String) : List String :=
  ((value.toList.splitOn ',').map fun piece => Text.trim (String.ofList piece)).filter (· != "")

def user (hasher : Hasher) (env : Environment) : Change Unit := do
  if let some username := env.nonEmpty? "IDP_SEED_USER" then
    if let some password := env.nonEmpty? "IDP_SEED_PASSWORD" then
      if ((← get).user? username).isNone then
        insertUser ⟨username, hasher.hashPassword password⟩

def ensureClient (clientId : String) (uris : List String) (maxAge : Option Int) : Change Unit := do
  if ((← get).clients.row? clientId).isNone then
    insertClient (Client.Row.ofAddresses clientId uris maxAge)

/-- The redirect addresses of the environment: one variable, or its plural if that is empty. -/
def redirectVariable (env : Environment) : Option String :=
  (env.nonEmpty? "IDP_REDIRECT_URI").or (env.nonEmpty? "IDP_REDIRECT_URIS")

def client (env : Environment) (maxAge : Option Int) : Change Unit := do
  if let some clientId := env.nonEmpty? "IDP_CLIENT_ID" then
    if let some value := redirectVariable env then
      if !(addresses value).isEmpty then
        ensureClient clientId (addresses value) maxAge

def run (hasher : Hasher) (env : Environment) : Change Unit := do
  user hasher env
  match readInteger (env.get? "IDP_CLIENT_DEFAULT_MAX_AGE") with
  | .error failure => throw failure
  | .ok maxAge => client env maxAge
  ensureClient developmentClient [developmentAddress] none

end SignOn.Database.Seed
