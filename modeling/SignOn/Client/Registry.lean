import SignOn.Client.Basic
import SignOn.Json.Printer

/-!
# The registry of clients

The registry is a table whose columns hold values of their declared types. A row holds the redirect
addresses as the text of a document, which is read each time the row is looked up.
-/

namespace SignOn.Client

structure Row where
  clientId : String
  redirectUris : String
  defaultMaxAge : Option Int := none
  subjectType : String := "public"
  deriving DecidableEq, Repr

def Row.ofAddresses (clientId : String) (addresses : List String) (defaultMaxAge : Option Int) :
    Row :=
  { clientId, defaultMaxAge, redirectUris := (Json.array (addresses.map .text)).render }

/-- The client that a row describes. Unlike a field of a record, the addresses may not be absent. -/
def Row.client (row : Row) : Except Document.Fault Client := do
  let document ← (Json.parse row.redirectUris).mapError .unreadable
  let items ← match document.elements? with
    | none => .error .noElements
    | some items => .ok items
  let atoms ← Document.atomsOf items
  let subjectType ← SubjectType.ofJson (.text row.subjectType)
  return { clientId := row.clientId
           redirectUris := .ofList atoms
           defaultMaxAge := row.defaultMaxAge
           subjectType }

abbrev Registry := List Row

def Registry.row? (registry : Registry) (clientId : String) : Option Row :=
  registry.find? (·.clientId == clientId)

def Registry.lookup (registry : Registry) (clientId : String) :
    Except Document.Fault (Option Client) :=
  match registry.row? clientId with
  | none => .ok none
  | some row => row.client.map some

def fitsColumn (n : Int) : Bool :=
  decide (-Int.pow 2 63 ≤ n ∧ n < Int.pow 2 63)

end SignOn.Client
