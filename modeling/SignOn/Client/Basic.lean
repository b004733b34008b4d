import SignOn.Json.Document

/-!
# Registered clients

A `Client` is what the registry knows of a relying party. A `Client.Record` is the same knowledge as
a session keeps it, a record whose identifier and age limit are whatever value the record has.
-/

namespace SignOn

/-- How a client learns the identity of an end user: by one identifier for all clients, or by one
for each. -/
inductive SubjectType where
  | shared
  | pairwise
  deriving DecidableEq, Repr

namespace SubjectType

def name : SubjectType → String
  | .shared => "public"
  | .pairwise => "pairwise"

def ofName? (name : String) : Option SubjectType :=
  if name = "public" then some .shared
  else if name = "pairwise" then some .pairwise
  else none

/-- Nothing names the shared type. -/
def ofJson (value : Json) : Except Document.Fault SubjectType :=
  if value.isEmpty then .ok .shared
  else match value.text?.bind ofName? with
    | some t => .ok t
    | none => .error (.subjectType value)

theorem ofJson_name (t : SubjectType) : ofJson (.text t.name) = .ok t := by
  cases t <;> rfl

end SubjectType

structure Client where
  clientId : String
  /-- The redirect addresses that the client has registered. -/
  redirectUris : AtomSet
  /-- Seconds; applies to requests without an age limit of their own. -/
  defaultMaxAge : Option Int := none
  subjectType : SubjectType := .shared
  deriving DecidableEq, Repr

namespace Client

structure Record where
  clientId : Json
  redirectUris : AtomSet
  defaultMaxAge : Json
  subjectType : SubjectType
  deriving DecidableEq, Repr

def toRecord (client : Client) : Record :=
  { clientId := .text client.clientId
    redirectUris := client.redirectUris
    defaultMaxAge := .ofOption .int client.defaultMaxAge
    subjectType := client.subjectType }

namespace Record

def ofFields (fields : Document.Fields) : Except Document.Fault Record := do
  let clientId ← Document.required fields "client_id"
  let redirectUris ← Document.setOf (Document.optional fields "redirect_uris")
  let subjectType ← SubjectType.ofJson (Document.optional fields "subject_type")
  return { clientId, redirectUris, subjectType
           defaultMaxAge := Document.optional fields "default_max_age" }

def toJson (record : Record) : Except Document.Fault Json := do
  let redirectUris ← Document.ofSet record.redirectUris
  return .object [
    ("client_id", record.clientId),
    ("redirect_uris", redirectUris),
    ("default_max_age", record.defaultMaxAge),
    ("subject_type", .text record.subjectType.name)]

def ofJson : Json → Except Document.Fault Record
  | .object fields => ofFields fields
  | _ => .error .noObject

/-- The client that a record describes, when its identifier is a text and its age limit an integer
or null. -/
def client? (record : Record) : Option Client :=
  match record.clientId, record.defaultMaxAge with
  | .text clientId, .null =>
    some ⟨clientId, record.redirectUris, none, record.subjectType⟩
  | .text clientId, .int n =>
    some ⟨clientId, record.redirectUris, some n, record.subjectType⟩
  | _, _ => none

end Record

end Client

end SignOn
