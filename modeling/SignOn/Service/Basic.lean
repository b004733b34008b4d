import SignOn.Database.Seed
import SignOn.Interception
import SignOn.Settings

/-!
# The state of the service

The service has a clock, a session store, the tables, a hasher of passwords, and a supply of
identifiers for new browser sessions. An action on it keeps what was done before a failure.
-/

namespace SignOn

structure Service where
  now : Instant
  store : Session.Store
  database : Database := {}
  hasher : Hasher
  /-- The identifiers that new browser sessions get, in order. -/
  supply : Nat → Session.Id
  /-- How many of them are in use. -/
  issued : Nat := 0

abbrev ServiceM := EStateM Failure Service

namespace Service

def onStore (action : Session.StoreM α) : ServiceM α := fun service =>
  match action service.store with
  | .ok a store => .ok a { service with store }
  | .error failure store => .error failure { service with store }

def onDatabase (change : Database.Change α) : ServiceM α := fun service =>
  match change service.database with
  | .ok a database => .ok a { service with database }
  | .error failure database => .error failure { service with database }

def raise (result : Except Failure α) : ServiceM α :=
  match result with
  | .ok a => return a
  | .error failure => throw failure

def append (log : Audit.Log) : ServiceM Unit :=
  modify fun service =>
    { service with database := { service.database with audit := service.database.audit ++ log } }

def log (event : Audit.Event) (clientId subject ip : Option String) : ServiceM Unit := do
  append [event.entry (← get).now clientId subject ip]

def clock (service : Service) (settings : Settings) : Session.Login.Clock :=
  { now := service.now, timeout := settings.sessionTimeout }

def interceptor (service : Service) (settings : Settings) : Interceptor :=
  { authorizePath := settings.authorizePath
    registry := service.database.clients
    clock := service.clock settings }

/-- Identifies the browser session of a request: by its cookie, or by a new identifier, which is
the second result. -/
def openSession (cookie : Option String) : ServiceM (Session.Id × Option Session.Id) := do
  match Request.nonEmpty cookie with
  | some sid => return (sid, none)
  | none =>
    let service ← get
    set { service with issued := service.issued + 1 }
    return (service.supply service.issued, some (service.supply service.issued))

def start (env : Environment) : ServiceM Unit := do
  onDatabase (Database.Seed.run (← get).hasher env)

end Service

end SignOn
